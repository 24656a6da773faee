/-
SearchSql.Json.Number — reading a number of JSON text.

An integer that fits into sixty-four bits is read exactly. Any other number is
read in three steps: as many digits as fit into a word of sixty-four bits make
the significand, what is left over becomes a power of ten, and the two are
joined by one rounded multiplication or division by a power of ten. A number
read in this way may miss the nearest double by its last bit.
-/
import SearchSql.Value

namespace SearchSql.Json

open SearchSql.Number SearchSql.Text

/-- The largest significand. -/
def maxSignificand : Nat := Nat.pow 2 64 - 1

/-- The largest power of ten that is read as it is written. -/
def maxExponent : Nat := Nat.pow 2 31 - 1

/-- Adds the digits of a text to a significand for as long as it does not grow
too large. Gives the significand, how many digits went into it, and the rest
of the text. -/
def takeSignificand (significand count : Nat) : List Char → Nat × Nat × List Char
  | [] => (significand, count, [])
  | c :: rest =>
    let next := 10 * significand + (c.toNat - '0'.toNat)
    if isDigit c && next ≤ maxSignificand then takeSignificand next (count + 1) rest
    else (significand, count, c :: rest)

/-- The double nearest to `10ⁿ`. -/
def powerOfTen (n : Nat) : Double :=
  Double.ofFraction false (Nat.pow 10 n) 1

/-- A double times a power of ten, rounded at each step. A result that is out
of range is none. -/
def scale (x : Double) (exponent : Int) : Option Double :=
  if exponent < -308 then
    if x.units = 0 then some x else scale (x.dividedBy (powerOfTen 308)) (exponent + 308)
  else if exponent < 0 then some (x.dividedBy (powerOfTen exponent.natAbs))
  else if exponent ≤ 308 then
    let product := x.times (powerOfTen exponent.toNat)
    if product.isFinite then some product else none
  else if x.units = 0 then some x
  else none
termination_by (-exponent).toNat
decreasing_by omega

/-- A significand times a power of ten, with a sign. -/
def joined (negative : Bool) (significand : Nat) (exponent : Int) : Option Double :=
  (scale (Double.ofFraction false significand 1) exponent).map fun x =>
    Double.ofParts negative x.magnitudeBits

/-- Reads the power of ten of a number, from behind the letter `e`. -/
def readPower (negative : Bool) (significand : Nat) (exponent : Int) (cs : List Char) :
    Option (Double × List Char) :=
  let (down, rest) := takeSign cs
  let digits := rest.takeWhile isDigit
  let rest := rest.dropWhile isDigit
  if digits.isEmpty then none
  else
    let power := Nat.ofDigitChars 10 digits 0
    let result :=
      if power ≤ maxExponent then
        joined negative significand (if down then exponent - power else exponent + power)
      else if significand ≠ 0 ∧ !down then none
      else some (Double.zero negative)
    result.map (·, rest)

/-- Reads what follows the whole digits of a number that is no integer. -/
def readTail (negative : Bool) (significand : Nat) (exponent : Int) (cs : List Char) :
    Option (Double × List Char) :=
  match cs with
  | 'e' :: rest | 'E' :: rest => readPower negative significand exponent rest
  | rest => (joined negative significand exponent).map (·, rest)

/-- Reads the digits behind a point; there is at least one. -/
def readFraction (negative : Bool) (significand : Nat) (exponent : Int) (cs : List Char) :
    Option (Double × List Char) :=
  let (significand, count, rest) := takeSignificand significand 0 cs
  let rest' := rest.dropWhile isDigit
  if count = 0 ∧ rest.length = rest'.length then none
  else readTail negative significand (exponent - count) rest'

/-- An integer with a sign: exact where it fits, and otherwise the nearest
double. Minus zero is a double. -/
def ofSignificand (negative : Bool) (significand : Nat) : Value :=
  if negative then
    if significand = 0 ∨ Nat.pow 2 63 < significand then
      .float (Double.ofFraction true significand 1)
    else .int (Int64.ofInt (-(significand : Int)))
  else if significand < Nat.pow 2 63 then .int (Int64.ofInt significand)
  else .float (Double.ofFraction false significand 1)

/-- Reads a number without its sign and gives the rest of the text. A zero
stands alone before the point. -/
def readMagnitude (negative : Bool) (cs : List Char) : Option (Value × List Char) :=
  let digits := cs.takeWhile isDigit
  if digits.isEmpty || (digits.length != 1 && digits.head? == some '0') then none
  else
    let (significand, _, rest) := takeSignificand 0 0 cs
    let excess := (rest.takeWhile isDigit).length
    let real (r : Option (Double × List Char)) : Option (Value × List Char) :=
      r.map fun (x, rest) => (.float x, rest)
    match rest.dropWhile isDigit with
    | '.' :: rest => real (readFraction negative significand excess rest)
    | rest =>
      match rest with
      | 'e' :: _ | 'E' :: _ => real (readTail negative significand excess rest)
      | _ =>
        if excess = 0 then some (ofSignificand negative significand, rest)
        else real (readTail negative significand excess rest)

/-- Reads a number, with a minus sign if it is negative. -/
def readNumber : List Char → Option (Value × List Char)
  | '-' :: rest => readMagnitude true rest
  | cs => readMagnitude false cs

end SearchSql.Json
