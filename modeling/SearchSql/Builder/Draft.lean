/-
SearchSql.Builder.Draft — the statement that a builder describes.

A SELECT or DELETE needs a condition, so that no statement covers a whole
index by accident. A statement that writes needs rows, each as long as its
list of columns; conditions on it are ignored.
-/
import SearchSql.Builder.Basic
import SearchSql.Shape
import SearchSql.Statement

namespace SearchSql.Builder

/-! ## 1. Text -/

/-- One row of values. -/
def tuple (row : List Value) : String :=
  "(" ++ Value.literals row ++ ")"

/-- A SELECT. The weight of a match is always projected too. -/
def selectText (b : Builder) (t : Target) : String :=
  "SELECT " ++ t.fields.render ++ ", WEIGHT() AS weight FROM " ++ t.index ++ " WHERE "
    ++ b.condition.render ++ b.options.renderOrder ++ b.options.renderPaging

/-- An INSERT or REPLACE. -/
def writeText (b : Builder) (t : Target) : String :=
  t.kind.keyword ++ " INTO " ++ t.index ++ " (" ++ t.fields.render ++ ") VALUES "
    ++ String.intercalate ", " (b.rows.map tuple)

/-- A DELETE. -/
def deleteText (b : Builder) (t : Target) : String :=
  "DELETE FROM " ++ t.index ++ " WHERE " ++ b.condition.render

/-! ## 2. Checks -/

/-- Refuses a target that misses fields. -/
def needFields (t : Target) : Except Error Unit :=
  if t.fields.isEmpty then .error (.emptyFields t.kind) else .ok ()

/-- Refuses a builder without conditions. -/
def needCondition (b : Builder) (t : Target) : Except Error Unit :=
  if b.condition.render.isEmpty then .error (.emptyPredicates t.kind t.index) else .ok ()

/-- Refuses a builder without rows. -/
def needRows (b : Builder) (t : Target) : Except Error Unit :=
  if b.rows.isEmpty then
    .error (.emptyValues (t.kind.keyword ++ " into '" ++ t.index ++ "' has no values"))
  else .ok ()

/-- Refuses the first row whose length is not that of the list of columns. -/
def needArity (b : Builder) (t : Target) : Except Error Unit :=
  match b.rows.find? fun row => row.length != t.fields.arity with
  | some row => .error (.arityMismatch t.fields.arity t.fields.render row.length)
  | none => .ok ()

/-! ## 3. Statements -/

/-- The statement of a target. -/
def draftFor (b : Builder) (t : Target) : Except Error Statement := do
  if t.index.isEmpty then .error .emptyIndex
  else
    match t.kind with
    | .select =>
      needFields t
      b.needCondition t
      .ok ⟨.select, t.index, b.selectText t, Shape.ofFields b.options.pairs t.fields⟩
    | .insert | .replace =>
      needFields t
      b.needRows t
      b.needArity t
      .ok ⟨t.kind, t.index, b.writeText t, .affected⟩
    | .delete =>
      b.needCondition t
      .ok ⟨.delete, t.index, b.deleteText t, .affected⟩

/-- The statement that the declarations amount to, or why there is none. -/
def draft (b : Builder) : Except Error Statement :=
  match b.target with
  | some t => b.draftFor t
  | none => .error .noStatement

/-- What is noticed when a draft becomes a statement. -/
def notices (b : Builder) (s : Statement) : List Event :=
  let ignored :=
    match s.kind with
    | .insert | .replace => !b.condition.isEmpty
    | .select | .delete => false
  (if ignored then [.notice (.conditionsIgnored s.kind s.index b.condition.size)] else [])
    ++ [.notice (.compiled s.kind s.sql)]

end SearchSql.Builder
