/-
SearchSql.Record — rows read into records with typed fields.

A row is first read as a mapping, so of a repeated name the last cell counts,
and names are compared exactly. The names are visited in their order and the
first value of a wrong type is the error. Fields that no name belongs to are
looked for afterwards, in the order of their declaration.
-/
import SearchSql.Json.Text

namespace SearchSql

open SearchSql.Number SearchSql.Text

/-- The types of a field. -/
inductive FieldType
  | integer
  | number
  | text
deriving DecidableEq, Repr

/-- A declared field of a record. An optional one may be null or missing. -/
structure RecordField where
  name : String
  type : FieldType
  isOptional : Bool
deriving DecidableEq, Repr

namespace Record

/-- What a field type asks for, in words. -/
def expected : FieldType → String
  | .integer => "i64"
  | .number => "f64"
  | .text => "a string"

/-- What was found, in words. -/
def found : Value → String
  | .null => "null"
  | .int n => "integer \x60" ++ intText n.toInt ++ "\x60"
  | .float x => "floating point \x60" ++ Json.number x ++ "\x60"
  | .text s => "string " ++ quoted s

/-- A value as a field of some type holds it: an integer serves as a number.
Nothing for a value of a wrong type. -/
def fit? (type : FieldType) : Value → Option Value
  | .int n =>
    match type with
    | .integer => some (.int n)
    | .number => some (.float (Double.ofInt n.toInt))
    | .text => none
  | .float x => if type = .number then some (.float x) else none
  | .text s => if type = .text then some (.text s) else none
  | .null => none

/-- A value read into a field. -/
def readField (f : RecordField) (v : Value) : Except Error Value :=
  if v.isNull && f.isOptional then .ok .null
  else
    match fit? f.type v with
    | some fitted => .ok fitted
    | none =>
      .error (.decode ("invalid type: " ++ found v ++ ", expected " ++ expected f.type))

/-- The values of a mapping that belong to declared fields, under their
names. -/
def readEntries (schema : List RecordField) :
    List (String × Value) → Except Error (List (String × Value))
  | [] => .ok []
  | (name, v) :: rest =>
    match schema.find? fun f => f.name == name with
    | some f => do
      let value ← readField f v
      let values ← readEntries schema rest
      .ok ((name, value) :: values)
    | none => readEntries schema rest

/-- The declared fields in order, each with its value. -/
def complete (values : List (String × Value)) :
    List RecordField → Except Error (List (String × Value))
  | [] => .ok []
  | f :: rest =>
    match values.lookup f.name with
    | some v => (complete values rest).map ((f.name, v) :: ·)
    | none =>
      if f.isOptional then (complete values rest).map ((f.name, .null) :: ·)
      else .error (.decode ("missing field \x60" ++ f.name ++ "\x60"))

/-- A row read into a record: the declared fields in order with their
values. -/
def ofRow (schema : List RecordField) (r : Row) : Except Error (List (String × Value)) := do
  let values ← readEntries schema r.entries
  complete values schema

end Record

end SearchSql
