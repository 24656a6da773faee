/-
SearchSql.Predicate — one condition on a document.

A predicate is a filter on a column or a full-text search. Predicates are
made by four functions that clean the field name and check the values;
whether one of them refuses, and why, depends on its arguments alone.
-/
import SearchSql.Name
import SearchSql.Phrase

namespace SearchSql

/-- One condition. -/
inductive Predicate
  /-- A column compared with a value. -/
  | comparison (field : String) (op : Operator) (value : Value)
  /-- A column between two values, both included. -/
  | between (field : String) (low high : Value)
  /-- A column equal to one of the values, or to none of them. -/
  | membership (field : String) (values : List Value) (negated : Bool)
  /-- Phrases of which one occurs in a full-text field, or in any of them. -/
  | fullText (field : Option String) (terms : List String) (anchoring : Anchoring)
deriving DecidableEq

namespace Predicate

/-! ## 1. Rendering -/

/-- Whether a predicate is a full-text search. -/
def isFullText : Predicate → Bool
  | .fullText .. => true
  | _ => false

/-- The text of a predicate. Phrases are alternatives, with a bar between
them. -/
def render : Predicate → String
  | .comparison field op value => field ++ " " ++ op.symbol ++ " " ++ value.literal
  | .between field low high =>
    field ++ " BETWEEN " ++ low.literal ++ " AND " ++ high.literal
  | .membership field values negated =>
    field ++ (if negated then " NOT IN (" else " IN (") ++ Value.literals values ++ ")"
  | .fullText field terms anchoring =>
    let phrases := String.intercalate " | " (terms.map (Phrase.render anchoring))
    match field with
    | some name => name ++ " " ++ phrases
    | none => phrases

/-! ## 2. Checked predicates -/

/-- A column compared with a value, or with a list: equality and membership
mean one of the list, inequality means none of it, and the operators that
order values take no list. Membership in one value is a list of one. -/
def compare (field : String) (op : Operator) (operand : Operand) : Except Error Predicate := do
  let name ← Name.field field
  match op, operand with
  | .isIn, .scalar v => .ok (.membership name [v] false)
  | op, .scalar v => .ok (.comparison name op v)
  | .eq, .list vs | .isIn, .list vs | .ne, .list vs =>
    if vs.isEmpty then
      .error (.emptyValues (op.symbol ++ " list for '" ++ name ++ "' is empty"))
    else .ok (.membership name vs (op == .ne))
  | op, .list _ => .error (.invalidOperator name op)

/-- A column between two values, of which the first has to be the smaller
one. -/
def range (field : String) (low high : Value) : Except Error Predicate := do
  let name ← Name.field field
  if low.order? high == some .lt then .ok (.between name low high)
  else .error (.invalidRange name low.literal high.literal)

/-- A column in a list of at least one value, or outside of it. -/
def oneOf (negated : Bool) (field : String) (values : List Value) : Except Error Predicate := do
  let name ← Name.field field
  if values.isEmpty then .error (.emptyValues ("IN list for '" ++ name ++ "' is empty"))
  else .ok (.membership name values negated)

/-- At least one phrase in a full-text field. -/
def search (field : String) (terms : List String) (a : Anchoring) : Except Error Predicate := do
  let name ← Name.field field
  if terms.isEmpty then .error (.emptyValues ("no full-text terms for '" ++ name ++ "'"))
  else .ok (.fullText (some name) terms a)

/-- At least one phrase in any full-text field. -/
def searchAll (terms : List String) (a : Anchoring) : Except Error Predicate :=
  if terms.isEmpty then .error (.emptyValues "no full-text terms for '*'")
  else .ok (.fullText none terms a)

end Predicate

end SearchSql
