/-
SearchSql.Error — what can go wrong between declaring a statement and using
its result, and the text that says so.

A validation error arises before anything is sent. The others come from the
transport, from rows that lack what was asked of them, or from the
configuration.
-/
import SearchSql.Kind
import SearchSql.Number.Layout
import SearchSql.Operator
import SearchSql.Text.Quoted

namespace SearchSql

open SearchSql.Number SearchSql.Text

/-- The causes of failure. -/
inductive Error
  /-- Nothing is left of a field name once it is cleaned. -/
  | invalidField (field : String)
  /-- An index name has characters that cannot stand unquoted. -/
  | invalidIndex (index : String)
  /-- The bounds of a range do not increase. -/
  | invalidRange (field low high : String)
  /-- An operator that orders values was given a list. -/
  | invalidOperator (field : String) (op : Operator)
  /-- A SELECT or DELETE has no condition. -/
  | emptyPredicates (kind : Kind) (index : String)
  /-- A row of values is not as long as the list of columns. -/
  | arityMismatch (columns : Nat) (columnList : String) (values : Nat)
  /-- A list that needs an element has none. -/
  | emptyValues (what : String)
  /-- No index was named. -/
  | emptyIndex
  /-- No fields were named. -/
  | emptyFields (kind : Kind)
  /-- No statement was started. -/
  | noStatement
  /-- The transport failed to run a statement. -/
  | transport (what sql : String)
  /-- A column that the result is shaped by is not in a row. -/
  | missingColumn (column : String)
  /-- A row does not fit the record it is read into. -/
  | decode (what : String)
  /-- A configuration file cannot be read. -/
  | unreadableConfig (what : String)
  /-- A configuration document is malformed or has a value of a wrong type. -/
  | malformedConfig
deriving DecidableEq, Repr

namespace Error

/-- The text of an error. -/
def message : Error → String
  | .invalidField field => "Invalid field name: " ++ quoted field
  | .invalidIndex index => "Invalid index name: " ++ quoted index
  | .invalidRange field low high =>
    "Invalid range on '" ++ field ++ "': min " ++ low ++ " must be smaller than max " ++ high
  | .invalidOperator field op =>
    "Operator '" ++ op.symbol ++ "' on '" ++ field ++ "' cannot take a list of values"
  | .emptyPredicates kind index =>
    kind.keyword ++ " on '" ++ index ++ "' has no WHERE/MATCH conditions"
  | .arityMismatch columns columnList values =>
    "Arity mismatch: " ++ natText columns ++ " columns (" ++ columnList ++ ") but "
      ++ natText values ++ " values"
  | .emptyValues what => "Empty values: " ++ what
  | .emptyIndex => "Index is empty"
  | .emptyFields kind => "Fields are empty for " ++ kind.keyword
  | .noStatement =>
    "No statement configured: call select_from, insert_into, replace_into or delete_from first"
  | .transport what sql => what ++ ". Full query: [" ++ sql ++ "]"
  | .missingColumn column => "Column '" ++ column ++ "' missing from result row"
  | .decode what => "Decode error: " ++ what
  | .unreadableConfig what => "Config error: " ++ what
  | .malformedConfig => "Config error: malformed document"

/-- Whether the transport reported the error. -/
def isTransport : Error → Bool
  | .transport .. => true
  | _ => false

/-- Whether the error was found before anything was sent. -/
def isValidation : Error → Bool
  | .transport .. | .missingColumn _ | .decode _ | .unreadableConfig _ | .malformedConfig => false
  | _ => true

/-- The statement that the transport failed to run. -/
def sql? : Error → Option String
  | .transport _ sql => some sql
  | _ => none

end Error

end SearchSql
