/-
SearchSql.Shape — the form in which the result of a statement is handed out.
-/
import SearchSql.Fields

namespace SearchSql

open SearchSql.Text

/-- The forms of a result. -/
inductive Shape
  /-- The rows as they are. -/
  | records
  /-- One value of each row. -/
  | column (name : String)
  /-- A mapping from one column to another. -/
  | pairs (key value : String)
  /-- The number of rows that were changed. -/
  | affected
deriving DecidableEq, Repr

namespace Shape

/-- The form of one projected expression: `*` projects whole rows. -/
def ofExpression (expression : String) : Shape :=
  if trim expression = "*" then .records else .column (Fields.outputName expression)

/-- The form of a SELECT, from what it projects. One expression gives a
column; two give a mapping where `pairs` asks for one. -/
def ofFields (pairs : Bool) : Fields → Shape
  | .expression text => ofExpression text
  | .columns [name] => ofExpression name
  | .columns [key, value] =>
    if pairs then .pairs (Fields.outputName key) (Fields.outputName value) else .records
  | .columns _ => .records

end Shape

end SearchSql
