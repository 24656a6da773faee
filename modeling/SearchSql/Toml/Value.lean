/-
SearchSql.Toml.Value — the values of a TOML document, and the rules by which
its tables are built.

A table remembers how it came to be, because that decides what may still be
added to it: a table that was only passed through on the way to another may
still get a header of its own, one that was made by dotted keys may get more
dotted keys, and an inline table is finished.
-/
import SearchSql.Number.Numeral

namespace SearchSql.Toml

open SearchSql.Number

/-! ## 1. Values -/

/-- How a table came to be. -/
inductive Origin
  /-- It was passed through on the way to the table of a header. -/
  | path
  /-- It has a header, or is the whole document. -/
  | header
  /-- It was made by dotted keys. -/
  | dotted
  /-- It was written between braces. -/
  | inline
deriving DecidableEq, Repr

/-- Whether dotted keys may lead through a table of this origin. -/
def Origin.isOpenToDots : Origin → Bool
  | .path | .dotted => true
  | .header | .inline => false

/-- The values of a document. -/
inductive Value
  | text (s : String)
  /-- Digits; nothing if they are no number. -/
  | integer (n : Option Int)
  /-- A number with a point or a power of ten; nothing if it is out of range. -/
  | float (x : Option Double)
  | boolean (b : Bool)
  /-- A date, a time of day, or both. -/
  | moment
  /-- An array; `isOfTables` if its elements have headers. -/
  | array (isOfTables : Bool) (elements : List Value)
  | table (origin : Origin) (entries : List (String × Value))

/-- A table: how it came to be, and its entries. -/
structure Table where
  origin : Origin
  entries : List (String × Value)

namespace Table

def empty (o : Origin) : Table := ⟨o, []⟩

def get? (t : Table) (key : String) : Option Value :=
  t.entries.lookup key

/-- The table with a value for a key, in place of the one before if there is
one. -/
def set (t : Table) (key : String) (v : Value) : Table :=
  { t with entries := (key, v) :: t.entries.filter fun e => e.1 != key }

def value (t : Table) : Value :=
  .table t.origin t.entries

/-! ## 2. Building tables -/

/-- Changes the table that a path leads to. Tables that are missing on the way
are made; an array of tables is entered at its last element. `dotted` tells
whether the path was written as a dotted key or in a header. -/
def change (dotted : Bool) (f : Table → Option Table) : (path : List String) → Table → Option Table
  | [], t => f t
  | key :: path, t =>
    match t.get? key with
    | none => do
      let child ← change dotted f path (empty (if dotted then .dotted else .path))
      return t.set key child.value
    | some (.table origin entries) =>
      if origin = .inline ∨ (dotted ∧ !origin.isOpenToDots) then none
      else do
        let child ← change dotted f path ⟨origin, entries⟩
        return t.set key child.value
    | some (.array true elements) =>
      match elements.getLast? with
      | some (.table origin entries) => do
        let child ← change dotted f path ⟨origin, entries⟩
        return t.set key (.array true (elements.dropLast ++ [child.value]))
      | _ => none
    | some _ => none

/-- Adds an entry. A key is set once, and a dotted key ends in a table that was
made by dotted keys. -/
def assign (path : List String) (key : String) (v : Value) (t : Table) : Option Table :=
  t.change true (fun t =>
    if (t.origin = .dotted) = (path = []) then none
    else
      match t.get? key with
      | some _ => none
      | none => some (t.set key v)) path

/-- Opens the table of a header. It is new, or was only passed through. -/
def openTable (path : List String) (key : String) (t : Table) : Option Table :=
  t.change false (fun t =>
    match t.get? key with
    | none => some (t.set key (empty .header).value)
    | some (.table .path entries) => some (t.set key (.table .header entries))
    | some _ => none) path

/-- Opens one more table of an array of tables. -/
def openElement (path : List String) (key : String) (t : Table) : Option Table :=
  t.change false (fun t =>
    match t.get? key with
    | none => some (t.set key (.array true [(empty .header).value]))
    | some (.array true elements) =>
      some (t.set key (.array true (elements ++ [(empty .header).value])))
    | some _ => none) path

end Table

/-! ## 3. Ignored values -/

mutual

/-- Whether a value may stand where nobody asks for it: its integers fit into
a hundred and twenty-eight bits and its floats are in range. -/
def Value.isIgnorable : Value → Bool
  | .text _ | .boolean _ | .moment => true
  | .integer n => n.any fun n => -(Int.pow 2 127) ≤ n && n < Int.pow 2 128
  | .float x => x.isSome
  | .array _ elements => areIgnorable elements
  | .table _ entries => areIgnorableEntries entries

def areIgnorable : List Value → Bool
  | [] => true
  | v :: rest => v.isIgnorable && areIgnorable rest

def areIgnorableEntries : List (String × Value) → Bool
  | [] => true
  | (_, v) :: rest => v.isIgnorable && areIgnorableEntries rest

end

end SearchSql.Toml
