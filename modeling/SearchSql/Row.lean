/-
SearchSql.Row — rows of a result.

A row is a list of named cells in the order the daemon sent them. Names may
repeat. A name addresses the first cell that has exactly this name, and where
there is none the first whose name differs in the case of ASCII letters only.

* `Row.get?`, `Row.take?` — reading a cell, and taking its value out.
* `Row.entries` — the row as a mapping in the order of its names.
-/
import SearchSql.Error
import SearchSql.Value

namespace SearchSql

open SearchSql.Text

/-- A row. -/
structure Row where
  cells : List (String × Value)
deriving DecidableEq

namespace Row

def empty : Row := ⟨[]⟩

instance : Inhabited Row := ⟨empty⟩

/-- A row with one more cell at its end. -/
def push (r : Row) (column : String) (value : Value) : Row :=
  ⟨r.cells ++ [(column, value)]⟩

/-- The names of the cells, in order. -/
def names (r : Row) : List String :=
  r.cells.map Prod.fst

def size (r : Row) : Nat :=
  r.cells.length

/-! ## 1. Cells by name -/

/-- The place of the cell that a name addresses. -/
def position? (r : Row) (column : String) : Option Nat :=
  match r.cells.findIdx? (fun cell => cell.1 == column) with
  | some i => some i
  | none => r.cells.findIdx? fun cell => sameFolded cell.1.toList column.toList

/-- The value of the cell that a name addresses. -/
def get? (r : Row) (column : String) : Option Value := do
  let i ← r.position? column
  let cell ← r.cells[i]?
  return cell.2

/-- The value that a name addresses and the row without it: the cell stays
where it is and becomes null. -/
def take? (r : Row) (column : String) : Option (Value × Row) := do
  let i ← r.position? column
  let cell ← r.cells[i]?
  return (cell.2, ⟨r.cells.set i (cell.1, .null)⟩)

/-- The value that a name addresses; a name without a cell is an error. -/
def get (r : Row) (column : String) : Except Error Value :=
  match r.get? column with
  | some v => .ok v
  | none => .error (.missingColumn column)

/-! ## 2. Rows as mappings -/

/-- A mapping, in the order of its names, with a new value for one of them. -/
def put {α : Type} (name : String) (value : α) : List (String × α) → List (String × α)
  | [] => [(name, value)]
  | (other, kept) :: rest =>
    if name = other then (name, value) :: rest
    else if name < other then (name, value) :: (other, kept) :: rest
    else (other, kept) :: put name value rest

/-- A value as a mapping holds it: a double that is not finite becomes null. -/
def settled : Value → Value
  | .float x => if x.isFinite then .float x else .null
  | v => v

/-- The row as a mapping: each name once, in the order of the names, with the
value of its last cell. -/
def entries (r : Row) : List (String × Value) :=
  r.cells.foldl (fun found cell => put cell.1 (settled cell.2) found) []

/-! ## 3. Small facts -/

@[simp] theorem names_push (r : Row) (column : String) (value : Value) :
    (r.push column value).names = r.names ++ [column] := by
  simp [push, names]

@[simp] theorem size_push (r : Row) (column : String) (value : Value) :
    (r.push column value).size = r.size + 1 := by
  simp [push, size]

/-- Taking a value out of a row leaves all its names. -/
theorem names_of_take? {r r' : Row} {column : String} {value : Value}
    (h : r.take? column = some (value, r')) : r'.names = r.names := by
  simp only [take?, Option.bind_eq_bind, Option.bind_eq_some_iff] at h
  obtain ⟨i, _, cell, hcell, h⟩ := h
  obtain ⟨rfl, rfl⟩ : cell.2 = value ∧ _ = r' := by simpa using h
  obtain ⟨hi, rfl⟩ := List.getElem?_eq_some_iff.1 hcell
  apply List.ext_getElem
  · simp [names]
  · intro j h₁ h₂
    by_cases hj : i = j
    · subst hj; simp [names]
    · simp [names, hj]

/-- A name that was put into a mapping has the value that was put. -/
@[simp] theorem lookup_put_self {α : Type} (name : String) (value : α)
    (found : List (String × α)) : (put name value found).lookup name = some value := by
  induction found with
  | nil => simp [put]
  | cons entry rest ih =>
    obtain ⟨other, kept⟩ := entry
    rw [put]
    split
    · simp
    · split
      · simp
      · rename_i hne _
        rw [List.lookup_cons, show (name == other) = false by simpa using hne]
        exact ih

/-- Putting one name leaves the values of the others. -/
theorem lookup_put_of_ne {α : Type} {name other : String} (h : other ≠ name) (value : α)
    (found : List (String × α)) :
    (put name value found).lookup other = found.lookup other := by
  have hb : (other == name) = false := by simpa using h
  induction found with
  | nil => simp [put, List.lookup_cons, hb]
  | cons entry rest ih =>
    obtain ⟨k, kept⟩ := entry
    rw [put]
    split
    · rename_i hk
      subst hk
      simp [List.lookup_cons, hb]
    · split
      · simp [List.lookup_cons, hb]
      · rw [List.lookup_cons, List.lookup_cons, ih]

end Row

end SearchSql
