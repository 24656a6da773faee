/-
SearchSql.Output — the result of a statement in the form that was asked for.

Rows are shaped in one pass. The first row that lacks a column decides the
error.
-/
import SearchSql.Row
import SearchSql.Shape

namespace SearchSql

/-- A shaped result. -/
inductive Output
  | records (rows : List Row)
  | column (values : List Value)
  /-- A mapping in the order in which its keys were first seen. -/
  | pairs (entries : List (String × Value))
  | affected (count : UInt64)
deriving DecidableEq

namespace Output

/-! ## 1. Questions about a result -/

/-- How many rows, or changed rows, a result stands for. -/
def size : Output → Nat
  | .records rows => rows.length
  | .column values => values.length
  | .pairs entries => entries.length
  | .affected count => count.toNat

def records? : Output → Option (List Row)
  | .records rows => some rows
  | _ => none

def column? : Output → Option (List Value)
  | .column values => some values
  | _ => none

def pairs? : Output → Option (List (String × Value))
  | .pairs entries => some entries
  | _ => none

def affected? : Output → Option UInt64
  | .affected count => some count
  | _ => none

/-! ## 2. Shaping -/

/-- The value of a column taken out of a row, and the row that is left. -/
def takeColumn (row : Row) (name : String) : Except Error (Value × Row) :=
  match row.take? name with
  | some taken => .ok taken
  | none => .error (.missingColumn name)

/-- One value of each row. -/
def columnValues (name : String) : List Row → Except Error (List Value)
  | [] => .ok []
  | row :: rest => do
    let (value, _) ← takeColumn row name
    let values ← columnValues name rest
    .ok (value :: values)

/-- A mapping with a new value for one key. A new key comes last, and a key
that is there keeps its place. -/
def insert (key : String) (value : Value) : List (String × Value) → List (String × Value)
  | [] => [(key, value)]
  | (other, kept) :: rest =>
    if key = other then (key, value) :: rest else (other, kept) :: insert key value rest

/-- The keys of a mapping stay where they are; a new key comes behind them. -/
theorem keys_insert (key : String) (value : Value) (entries : List (String × Value)) :
    (insert key value entries).map Prod.fst =
      if key ∈ entries.map Prod.fst then entries.map Prod.fst
      else entries.map Prod.fst ++ [key] := by
  induction entries with
  | nil => simp [insert]
  | cons entry rest ih =>
    obtain ⟨other, kept⟩ := entry
    by_cases h : key = other
    · subst h; simp [insert]
    · rw [insert, if_neg h]
      simp only [List.map_cons, ih, List.mem_cons, h, false_or]
      by_cases hm : key ∈ rest.map Prod.fst <;> simp only [hm, if_true, if_false, List.cons_append]

/-- The mapping of the rows from one column to another, in addition to the
entries found before them. The key is read before the value is taken, so both
columns may be the same cell. -/
def keyedValues (key value : String) (found : List (String × Value)) :
    List Row → Except Error (List (String × Value))
  | [] => .ok found
  | row :: rest => do
    let k ← row.get key
    let (v, _) ← takeColumn row value
    keyedValues key value (insert k.display v found) rest

/-- Rows in the form of a shape. A count of changed rows has no rows to look
at and is zero. -/
def ofRows (rows : List Row) : Shape → Except Error Output
  | .records => .ok (.records rows)
  | .column name => (columnValues name rows).map .column
  | .pairs key value => (keyedValues key value [] rows).map .pairs
  | .affected => .ok (.affected 0)

end Output

end SearchSql
