/-
SearchSql.Number.Shortest — the shortest decimal that reads back as a double.

A decimal reads back as a double when it lies in the interval of reals that
round to it; the ends belong to the interval when the double's last bit is
zero. For one, two, … digits the two neighbours of the double on that decimal
grid are tested. The first grid with a hit wins, and of two hits the nearer
one. Between two hits equally near, the rule of the written form decides.
-/
import SearchSql.Number.Binary

namespace SearchSql.Number

/-- Which of two equally near decimals is written. -/
inductive Tie
  | up
  | even
deriving DecidableEq, Repr

/-- The decimal `digits · 10^exponent`. -/
structure Decimal where
  digits : Nat
  exponent : Int
deriving DecidableEq, Repr

namespace Shortest

/-- The reals that round to a positive number of `units`, in quarters of a
unit: the number, the two ends, and whether the ends belong to it. Below a
power of two the next double is only half as far away. -/
structure Interval where
  value : Nat
  lower : Nat
  upper : Nat
  closed : Bool

def interval (units : Nat) : Interval :=
  let step := Nat.pow 2 (binary64.excess units)
  let mantissa := units / step
  let below := if mantissa = Nat.pow 2 52 ∧ 1 < step then step else 2 * step
  ⟨4 * units, 4 * units - below, 4 * units + 2 * step, mantissa % 2 == 0⟩

/-- Whether `num / den` lies in the interval. -/
def Interval.holds (i : Interval) (num den : Nat) : Bool :=
  if i.closed then i.lower * den ≤ num && num ≤ i.upper * den
  else i.lower * den < num && num < i.upper * den

/-- The power of ten of the leading digit of a positive number of units. -/
def leadingExponent (units : Nat) : Int :=
  ((Nat.toDigits 10 (units * Nat.pow 10 400 / Nat.pow 2 1074)).length : Int) - 401

/-- A grid of decimals with step `10^exponent`, as a fraction of a quarter of
a unit. -/
def gridStep (exponent : Int) : Nat × Nat :=
  if 0 ≤ exponent then (Nat.pow 10 exponent.toNat * Nat.pow 2 1076, 1)
  else (Nat.pow 2 1076, Nat.pow 10 (-exponent).toNat)

/-- The decimal on the grid of `10^exponent` that reads back, if there is one. -/
def onGrid? (tie : Tie) (i : Interval) (exponent : Int) : Option Decimal :=
  let (num, den) := gridStep exponent
  let low := i.value * den / num
  let lowHits := i.holds (low * num) den
  let highHits := i.holds ((low + 1) * num) den
  let pick (n : Nat) : Option Decimal := some ⟨n, exponent⟩
  if lowHits && highHits then
    match compare (2 * (i.value * den)) ((2 * low + 1) * num) with
    | .lt => pick low
    | .gt => pick (low + 1)
    | .eq => if tie = .even ∧ low % 2 = 0 then pick low else pick (low + 1)
  else if lowHits then pick low
  else if highHits then pick (low + 1)
  else none

/-- The first grid with a hit, from `count` digits upward. Seventeen digits
always read back, so `fuel` is never exhausted when it starts at seventeen. -/
def search (tie : Tie) (i : Interval) (leading : Int) : (fuel count : Nat) → Option Decimal
  | 0, _ => none
  | fuel + 1, count =>
    match onGrid? tie i (leading - count + 1) with
    | some d => some d
    | none => search tie i leading fuel (count + 1)

end Shortest

/-- The shortest decimal of a positive number of units; zero has the digit 0. -/
def shortest (tie : Tie) (units : Nat) : Decimal :=
  if units = 0 then ⟨0, 0⟩
  else
    match Shortest.search tie (Shortest.interval units) (Shortest.leadingExponent units) 17 1 with
    | some d => d
    | none => ⟨units, 0⟩

end SearchSql.Number
