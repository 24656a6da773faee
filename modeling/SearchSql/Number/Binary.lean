/-
SearchSql.Number.Binary — binary floating point numbers and their exact
rounding.

A finite number of a binary format is a whole number of the format's units,
a unit being its smallest positive number. Units make every question about
such numbers one about natural numbers: which of two is larger, what a
fraction rounds to, which decimals lie near.

* `Format.nearest` — the units nearest to a fraction, a tie going to the
  even neighbour; nothing when the fraction is out of range.
* `Double` — the sixty-four bits of a binary64 number, with its magnitude in
  units, its order, and the double nearest to a fraction.
-/

namespace SearchSql.Number

/-! ## 1. Formats -/

/-- A binary interchange format. Its numbers have at most `precision`
significant bits, its unit is `2⁻ᵗ` for `t = tiny`, and its numbers are below
`2ʳ` for `r = range`. -/
structure Format where
  precision : Nat
  tiny : Nat
  range : Nat

/-- Sixty-four bits. -/
def binary64 : Format := ⟨53, 1074, 1024⟩

/-- Thirty-two bits. -/
def binary32 : Format := ⟨24, 149, 128⟩

/-- The quotient of two natural numbers rounded to the nearest one, a tie to
the even one. -/
def roundEven (num den : Nat) : Nat :=
  let q := num / den
  let r := num % den
  if 2 * r < den then q
  else if 2 * r = den then q + q % 2
  else q + 1

/-- How many low bits a number of `n` units has to drop to fit into the
format's precision. -/
def Format.excess (f : Format) (n : Nat) : Nat :=
  Nat.log2 n + 1 - f.precision

/-- The number of the format nearest to `num / den`, in units. -/
def Format.nearest (f : Format) (num den : Nat) : Option Nat :=
  let scaled := num * Nat.pow 2 f.tiny
  let drop := f.excess (scaled / den)
  let units := roundEven scaled (den * Nat.pow 2 drop) * Nat.pow 2 drop
  if units < Nat.pow 2 (f.range + f.tiny) then some units else none

/-! ## 2. Doubles -/

/-- A number of the binary64 format, as its bits: the sign, eleven bits of
exponent, fifty-two of fraction. -/
structure Double where
  bits : UInt64
deriving DecidableEq, Repr

namespace Double

/-- The bits without the sign. They are ordered as the magnitudes are. -/
def magnitudeBits (x : Double) : Nat :=
  x.bits.toNat % Nat.pow 2 63

/-- The magnitude bits of the infinities. Above them are the bits of no
number. -/
def infinityBits : Nat := 2047 * Nat.pow 2 52

def isNegative (x : Double) : Bool :=
  Nat.pow 2 63 ≤ x.bits.toNat

def isNaN (x : Double) : Bool :=
  infinityBits < x.magnitudeBits

def isFinite (x : Double) : Bool :=
  x.magnitudeBits < infinityBits

/-- The magnitude of a finite double in units of `2⁻¹⁰⁷⁴`. -/
def units (x : Double) : Nat :=
  let m := x.magnitudeBits
  if m < Nat.pow 2 53 then m
  else (m % Nat.pow 2 52 + Nat.pow 2 52) * Nat.pow 2 (m / Nat.pow 2 52 - 1)

/-- The magnitude bits of a number of units that has at most fifty-three
significant bits. -/
def bitsOfUnits (units : Nat) : Nat :=
  let drop := binary64.excess units
  drop * Nat.pow 2 52 + units / Nat.pow 2 drop

/-- The double with a sign and magnitude bits. -/
def ofParts (negative : Bool) (magnitude : Nat) : Double :=
  ⟨UInt64.ofNat (if negative then Nat.pow 2 63 + magnitude else magnitude)⟩

def nan : Double := ofParts false (infinityBits + Nat.pow 2 51)

def infinite (negative : Bool) : Double := ofParts negative infinityBits

def zero (negative : Bool) : Double := ofParts negative 0

/-- The double of a magnitude in units, infinite when there is none. -/
def ofMagnitude (negative : Bool) : Option Nat → Double
  | some u => ofParts negative (bitsOfUnits u)
  | none => infinite negative

/-- The double nearest to the fraction `num / den` with a sign. -/
def ofFraction (negative : Bool) (num den : Nat) : Double :=
  ofMagnitude negative (binary64.nearest num den)

/-- The double nearest to an integer. -/
def ofInt (n : Int) : Double :=
  ofFraction (n < 0) n.natAbs 1

/-! ## 3. Order and whole numbers -/

/-- The place of a number in the order of the doubles: its magnitude bits with
its sign. Both zeros have the place 0. -/
def place (x : Double) : Int :=
  if x.isNegative then -(x.magnitudeBits : Int) else x.magnitudeBits

/-- The order of two doubles. What is no number is in no order, not even with
itself. -/
def order? (x y : Double) : Option Ordering :=
  if x.isNaN || y.isNaN then none else some (compare x.place y.place)

/-- Equality of numbers: the two zeros are equal, and what is no number equals
nothing. -/
def same (x y : Double) : Bool :=
  x.order? y == some .eq

/-- Whether a double is a whole number. -/
def isWhole (x : Double) : Bool :=
  x.isFinite && x.units % Nat.pow 2 1074 == 0

/-- The integer part of a finite double, toward zero. -/
def truncate (x : Double) : Int :=
  let n : Nat := x.units / Nat.pow 2 1074
  if x.isNegative then -(n : Int) else n

/-! ## 4. Products and quotients -/

/-- The product of two finite doubles, rounded once. -/
def times (x y : Double) : Double :=
  ofFraction (x.isNegative != y.isNegative) (x.units * y.units) (Nat.pow 2 2148)

/-- The quotient of two finite doubles, rounded once; the divisor is not
zero. -/
def dividedBy (x y : Double) : Double :=
  ofFraction (x.isNegative != y.isNegative) x.units y.units

end Double

end SearchSql.Number
