/-
SearchSql.Number.Numeral — reading numbers from text.

An integer is a sign, if any, and digits. A numeral has a sign, digits with
at most one point among them, and a power of ten, the last two if any. A
double is a numeral or one of the words `inf`, `infinity` and `nan` behind a
sign, if any, and it is the double nearest to the number written.
-/
import SearchSql.Number.Binary
import SearchSql.Number.Shortest
import SearchSql.Text.Ascii

namespace SearchSql.Number

open SearchSql.Text

/-! ## 1. Integers -/

/-- Takes a sign off a text: whether it was a minus, and what follows. -/
def takeSign : List Char → Bool × List Char
  | '-' :: rest => (true, rest)
  | '+' :: rest => (false, rest)
  | rest => (false, rest)

/-- The value of a text of digits; none for another text and for the empty
one. -/
def readNat? (cs : List Char) : Option Nat :=
  if !cs.isEmpty && cs.all isDigit then some (Nat.ofDigitChars 10 cs 0) else none

/-- The value of digits behind a sign, if any. -/
def readInt? (cs : List Char) : Option Int :=
  let (negative, rest) := takeSign cs
  (readNat? rest).map fun n => if negative then -(n : Int) else n

/-- Reads an integer of sixty-four bits; larger ones are refused. -/
def readInt64? (cs : List Char) : Option Int64 :=
  match readInt? cs with
  | some n => if -(Int.pow 2 63) ≤ n ∧ n < Int.pow 2 63 then some (Int64.ofInt n) else none
  | none => none

/-! ## 2. Numerals -/

/-- A decimal with a sign. The sign of a zero counts. -/
structure Numeral where
  negative : Bool
  magnitude : Decimal
deriving DecidableEq, Repr

/-- The power of ten at the end of a numeral: nothing, or `e` with digits
behind a sign, if any. -/
def readExponent? : List Char → Option Int
  | [] => some 0
  | c :: rest => if c = 'e' ∨ c = 'E' then readInt? rest else none

/-- Takes a point and the digits behind it off a text. -/
def takeFraction : List Char → List Char × List Char
  | '.' :: rest => (rest.takeWhile isDigit, rest.dropWhile isDigit)
  | rest => ([], rest)

/-- Reads a numeral; there is a digit before or behind the point. -/
def readNumeral? (cs : List Char) : Option Numeral :=
  let (negative, rest) := takeSign cs
  let whole := rest.takeWhile isDigit
  let (fraction, rest) := takeFraction (rest.dropWhile isDigit)
  if whole.isEmpty && fraction.isEmpty then none
  else
    (readExponent? rest).map fun e =>
      ⟨negative, Nat.ofDigitChars 10 (whole ++ fraction) 0, e - fraction.length⟩

/-! ## 3. Doubles -/

/-- The number of a format nearest to a decimal, in units. Decimals whose
leading digit is far outside the format's range are settled without their
power of ten. -/
def Format.nearestDecimal (f : Format) (d : Decimal) : Option Nat :=
  let leading : Int := d.exponent + (Nat.toDigits 10 d.digits).length
  if d.digits = 0 ∨ leading < -330 then some 0
  else if 310 < leading then none
  else if 0 ≤ d.exponent then f.nearest (d.digits * Nat.pow 10 d.exponent.toNat) 1
  else f.nearest d.digits (Nat.pow 10 (-d.exponent).toNat)

namespace Double

/-- The double nearest to a numeral. -/
def ofNumeral (n : Numeral) : Double :=
  ofMagnitude n.negative (binary64.nearestDecimal n.magnitude)

/-- The number of thirty-two bits nearest to a numeral, as a double: every such
number is one. -/
def ofNumeral32 (n : Numeral) : Double :=
  ofMagnitude n.negative
    ((binary32.nearestDecimal n.magnitude).map (· * Nat.pow 2 (binary64.tiny - binary32.tiny)))

/-- The words for what no numeral denotes, in any case and behind a sign, if
any. -/
def readWord? (cs : List Char) : Option Double :=
  let (negative, word) := takeSign cs
  if sameFolded word "inf".toList || sameFolded word "infinity".toList then
    some (infinite negative)
  else if sameFolded word "nan".toList then some nan
  else none

/-- Reads a double. -/
def read? (cs : List Char) : Option Double :=
  match readWord? cs with
  | some x => some x
  | none => (readNumeral? cs).map ofNumeral

/-- Reads a number of thirty-two bits as a double. -/
def read32? (cs : List Char) : Option Double :=
  match readWord? cs with
  | some x => some x
  | none => (readNumeral? cs).map ofNumeral32

end Double

end SearchSql.Number
