/-
SearchSql.Json.Document — values and rows as JSON documents.

A document is JSON as data. A number keeps the kind it was written with: it is a
natural number, a negative integer or a double. A double that is not finite has no
number and becomes null. In an object each name stands once, in the order of the
names.

A document does not tell which kind of value it was made of. It is read as null, as
an integer, as a double and as a text, in this order, and the first reading that
takes it counts.

* `Document.ofValue`, `Document.members` — a value and a row as documents.
* `Document.value` — a document read as a value.
* `Row.mapping` — a row read as a mapping, by way of its document.
-/
import SearchSql.Row

namespace SearchSql

open SearchSql.Number

namespace Json

/-- A JSON document. -/
inductive Document
  | null
  | boolean (b : Bool)
  | natural (n : UInt64)
  | negative (n : Int64)
  | real (x : Double)
  | text (s : String)
  | array (items : List Document)
  | object (members : List (String × Document))

namespace Document

/-! ## 1. Writing -/

/-- A value as a document. -/
def ofValue : Value → Document
  | .null => .null
  | .int n => if n.toInt < 0 then .negative n else .natural (UInt64.ofNat n.toInt.toNat)
  | .float x => if x.isFinite then .real x else .null
  | .text s => .text s

/-- A row as the members of an object: the last of several cells of one name
counts. -/
def members (r : Row) : List (String × Document) :=
  r.cells.foldl (fun found cell => Row.put cell.1 (ofValue cell.2) found) []

/-! ## 2. Reading -/

/-- A document as null. -/
def null? : Document → Option Value
  | .null => some .null
  | _ => none

/-- A document as an integer of sixty-four bits. -/
def int? : Document → Option Value
  | .natural n => if n.toNat < Nat.pow 2 63 then some (.int (Int64.ofInt n.toNat)) else none
  | .negative n => some (.int n)
  | _ => none

/-- A document as a double. Every number has a nearest one. -/
def float? : Document → Option Value
  | .natural n => some (.float (Double.ofInt n.toNat))
  | .negative n => some (.float (Double.ofInt n.toInt))
  | .real x => some (.float x)
  | _ => none

/-- A document as a text. -/
def text? : Document → Option Value
  | .text s => some (.text s)
  | _ => none

/-- A document as a value. The kinds of values are tried in order. -/
def value (d : Document) : Except Error Value :=
  match [null?, int?, float?, text?].findSome? (· d) with
  | some v => .ok v
  | none => .error (.decode "data did not match any variant of untagged enum Value")

/-- The members of an object as values, in addition to the values found before them.
The first document that is no value decides the error. -/
def values (found : List (String × Value)) :
    List (String × Document) → Except Error (List (String × Value))
  | [] => .ok found
  | (name, d) :: rest => do
    let v ← value d
    values (Row.put name v found) rest

end Document

end Json

/-- A row read as a mapping from names to values, by way of its document. -/
def Row.mapping (r : Row) : Except Error (List (String × Value)) :=
  Json.Document.values [] (Json.Document.members r)

end SearchSql
