/-
SearchSql.Value — the scalar values bound into statements and read back from
rows.

A daemon often returns every attribute as text, so a text that reads as a
number counts as that number wherever a number is asked for, in ranges and
in integer columns.
-/
import SearchSql.Number.Layout
import SearchSql.Number.Numeral
import SearchSql.Text.Blank

namespace SearchSql

open SearchSql.Number SearchSql.Text

/-! ## 1. Values -/

/-- A scalar value. -/
inductive Value
  | null
  | int (n : Int64)
  | float (x : Double)
  | text (s : String)
deriving DecidableEq

/-- What stands on the right of a filter: one value, or a list of them. -/
inductive Operand
  | scalar (v : Value)
  | list (vs : List Value)
deriving DecidableEq

namespace Value

/-- A truth value is the integer 1 or 0. -/
def ofBool (b : Bool) : Value :=
  .int (if b then 1 else 0)

/-- An unsigned integer is an integer where it fits and the text of its digits
where it does not. -/
def ofUInt64 (n : UInt64) : Value :=
  if n.toNat < Nat.pow 2 63 then .int (Int64.ofInt n.toNat) else .text (natText n.toNat)

def isNull (v : Value) : Bool :=
  v matches .null

/-- The content of a text value. -/
def text? : Value → Option String
  | .text s => some s
  | _ => none

/-- The text of a value: nothing for null, a text as it is. -/
def display : Value → String
  | .null => ""
  | .int n => intText n.toInt
  | .float x => Number.display.text x
  | .text s => s

/-! ## 2. Values as numbers -/

/-- The integer of sixty-four bits nearest to `n`. -/
def clampInt64 (n : Int) : Int64 :=
  if n < -(Int.pow 2 63) then Int64.minValue
  else if Int.pow 2 63 ≤ n then Int64.maxValue
  else Int64.ofInt n

/-- A value as an integer: a whole double within the limits of the integers,
and a text that reads as an integer when trimmed. -/
def int? : Value → Option Int64
  | .null => none
  | .int n => some n
  | .float x => if x.isWhole then some (clampInt64 x.truncate) else none
  | .text s => readInt64? (trimChars s.toList)

/-- A value as a double: a text that reads as a finite number when trimmed
counts as that number. -/
def float? : Value → Option Double
  | .null => none
  | .int n => some (Double.ofInt n.toInt)
  | .float x => some x
  | .text s => (Double.read? (trimChars s.toList)).filter Double.isFinite

/-! ## 3. Comparison -/

/-- The order of two values as numbers, where both are numbers. -/
def numberOrder? (a b : Value) : Option Ordering :=
  match a.float?, b.float? with
  | some x, some y => x.order? y
  | _, _ => none

/-- The order of two values in a range. Integers are compared exactly, other
numbers as doubles, texts as numbers if both are numbers and character by
character if not. Null is in no order, and neither is a number with a text
that is none. -/
def order? : Value → Value → Option Ordering
  | .null, _ => none
  | _, .null => none
  | .int m, .int n => some (compare m.toInt n.toInt)
  | .text s, .text t =>
    match (Value.text s).float?, (Value.text t).float? with
    | some x, some y => x.order? y
    | _, _ => some (compare s t)
  | a, b => numberOrder? a b

/-- Whether two values are the same kind of value with equal contents. -/
def same : Value → Value → Bool
  | .null, .null => true
  | .int m, .int n => m == n
  | .float x, .float y => x.same y
  | .text s, .text t => s == t
  | _, _ => false

end Value

end SearchSql
