/-
SearchSql.Number.Layout — how numbers are written.

Integers are written with their digits. A double is written with the digits
of the shortest decimal that reads back; where the point stands, whether a
whole number shows one, and when powers of ten are written, is a `Layout`,
one record per written form.
-/
import SearchSql.Number.Shortest

namespace SearchSql.Number

/-! ## 1. Integers -/

/-- The digits of a natural number, without leading zeros. -/
def natChars (n : Nat) : List Char :=
  Nat.toDigits 10 n

def natText (n : Nat) : String :=
  String.ofList (natChars n)

/-- An integer: a minus sign where it is negative, and its digits. -/
def intChars (n : Int) : List Char :=
  if n < 0 then '-' :: natChars n.natAbs else natChars n.natAbs

def intText (n : Int) : String :=
  String.ofList (intChars n)

/-- A natural number in at least `width` digits, with zeros in front. -/
def paddedText (width n : Nat) : String :=
  let ds := natChars n
  String.ofList (List.replicate (width - ds.length) '0' ++ ds)

/-! ## 2. Doubles -/

/-- The decisions of one written form of the doubles. -/
structure Layout where
  /-- Which of two equally near shortest decimals is written. -/
  tie : Tie
  /-- Whether a number whose leading digit stands for this power of ten is
  written without a power of ten. -/
  plain : Int → Bool
  /-- What follows the digits of a whole number written without a power of
  ten. -/
  wholeMark : String
  /-- What stands for something that is no number. -/
  nan : String
  /-- What stands for an infinite magnitude. -/
  infinity : String

/-- The significant digits of a decimal, without zeros at the end, and the
power of ten of the first of them. -/
def Decimal.significant (d : Decimal) : List Char × Int :=
  let ds := natChars d.digits
  let kept := (ds.reverse.dropWhile (· == '0')).reverse
  (if kept.isEmpty then ['0'] else kept, d.exponent + ds.length - 1)

/-- Digits with a point in its place and no power of ten. -/
def plainChars (wholeMark : List Char) (ds : List Char) (leading : Int) : List Char :=
  if leading < 0 then
    '0' :: '.' :: (List.replicate ((-leading).toNat - 1) '0' ++ ds)
  else
    let whole := leading.toNat + 1
    if ds.length ≤ whole then ds ++ List.replicate (whole - ds.length) '0' ++ wholeMark
    else ds.take whole ++ '.' :: ds.drop whole

/-- One digit, the others behind a point, and a signed power of ten. -/
def scientificChars (ds : List Char) (leading : Int) : List Char :=
  let point := if (ds.drop 1).isEmpty then [] else '.' :: ds.drop 1
  let sign := if leading < 0 then '-' else '+'
  ds.take 1 ++ point ++ 'e' :: sign :: natChars leading.natAbs

/-- A magnitude in units as the layout writes it. -/
def Layout.magnitudeChars (l : Layout) (units : Nat) : List Char :=
  let (ds, leading) := (shortest l.tie units).significant
  if l.plain leading then plainChars l.wholeMark.toList ds leading
  else scientificChars ds leading

/-- A double as the layout writes it. -/
def Layout.text (l : Layout) (x : Double) : String :=
  if x.isNaN then l.nan
  else
    let magnitude := if x.isFinite then l.magnitudeChars x.units else l.infinity.toList
    String.ofList (if x.isNegative then '-' :: magnitude else magnitude)

/-- Doubles in statements and in messages: never a power of ten, no point in a
whole number, and a tie goes up. -/
def display : Layout where
  tie := .up
  plain := fun _ => true
  wholeMark := ""
  nan := "NaN"
  infinity := "inf"

end SearchSql.Number
