/-
SearchSql.Builder.Basic — a statement in the making.

A builder gathers one statement: where it goes, its fields, its conditions,
its options and, for a statement that writes, its rows of values. What may be
declared is a `Call`. A call works on the builder step by step: it checks and
it sets, and a check that refuses ends the call at once. Nothing takes back
what a call has set before it ends.
-/
import SearchSql.Condition
import SearchSql.Fields
import SearchSql.Options

namespace SearchSql

/-! ## 1. Builders -/

/-- Where a statement goes and which fields it has. -/
structure Target where
  kind : Kind
  index : String
  fields : Fields
deriving DecidableEq

/-- A statement in the making. -/
structure Builder where
  /-- The paging of a statement that sets none. -/
  defaults : Paging
  target : Option Target
  condition : Condition
  options : Options
  /-- The rows of values to write. -/
  rows : List (List Value)
deriving DecidableEq

namespace Builder

/-- A builder with nothing declared. -/
def ofPaging (p : Paging) : Builder :=
  ⟨p, none, .empty, .ofPaging p, []⟩

/-- The builder without its declarations. They are cleared one by one. -/
def reset (b : Builder) : Builder :=
  { b with target := none, condition := .empty, options := .ofPaging b.defaults, rows := [] }

end Builder

/-! ## 2. Calls -/

/-- A declaration. -/
inductive Call
  | selectFrom (index : String) (fields : Fields)
  | insertInto (index : String) (columns : Fields)
  | replaceInto (index : String) (columns : Fields)
  | deleteFrom (index : String)
  | filter (field : String) (op : Operator) (operand : Operand)
  | between (field : String) (low high : Value)
  | oneOf (negated : Bool) (field : String) (values : List Value)
  | search (field : String) (terms : List String) (anchoring : Anchoring)
  | searchAll (terms : List String) (anchoring : Anchoring)
  | groupBy (field : String)
  | orderBy (field : String) (direction : Direction)
  | limit (offset limit : UInt64)
  | maxMatches (cap : UInt64)
  | pairs (enabled : Bool)
  | values (row : List Value)
deriving DecidableEq

namespace Call

/-- The first rows of a result. -/
def take (limit : UInt64) : Call := .limit 0 limit

/-- Falling order. -/
def orderByDescending (field : String) : Call := .orderBy field .desc

/-- Phrases anywhere in a field. -/
def searchLoosely (field : String) (terms : List String) : Call := .search field terms .loose

end Call

/-! ## 3. Calls at work -/

/-- Work on a builder: its steps check and set, and a check that refuses ends
it. What was set by then stays set. -/
abbrev Work : Type → Type :=
  EStateM Error Builder

namespace Work

/-- Starts a statement with given fields. -/
def start (kind : Kind) (index : String) (fields : Fields) : Work Unit := do
  let index ← ofExcept (Name.index index)
  modify fun b => { b with target := some ⟨kind, index, fields⟩ }

/-- Starts a statement that writes: every column needs a name. -/
def startWriting (kind : Kind) (index : String) (columns : Fields) : Work Unit := do
  if columns.isEmpty then throw (.emptyFields kind)
  let names ← ofExcept (Name.fields columns.names)
  start kind index (.columns names)

/-- Adds a predicate once it is checked. -/
def addPredicate (checked : Except Error Predicate) : Work Unit := do
  let p ← ofExcept checked
  modify fun b => { b with condition := b.condition.add p }

end Work

/-- The work of a call. A new target, column or number takes the place of the
one before; predicates and rows are added. -/
def Call.perform : Call → Work Unit
  | .selectFrom index fields => do
    if fields.isEmpty then throw (.emptyFields .select)
    Work.start .select index fields
  | .insertInto index columns => Work.startWriting .insert index columns
  | .replaceInto index columns => Work.startWriting .replace index columns
  | .deleteFrom index => Work.start .delete index .empty
  | .filter field op operand => Work.addPredicate (Predicate.compare field op operand)
  | .between field low high => Work.addPredicate (Predicate.range field low high)
  | .oneOf negated field vs => Work.addPredicate (Predicate.oneOf negated field vs)
  | .search field terms anchoring => Work.addPredicate (Predicate.search field terms anchoring)
  | .searchAll terms anchoring => Work.addPredicate (Predicate.searchAll terms anchoring)
  | .groupBy field => do
    let column ← ofExcept (Name.field field)
    modify fun b => { b with options.groupBy := some column }
  | .orderBy field direction => do
    let column ← ofExcept (Name.field field)
    modify fun b => { b with options.orderBy := some (column, direction) }
  | .limit offset count =>
    modify fun b => { b with options.paging.offset := offset, options.paging.limit := count }
  | .maxMatches cap => modify fun b => { b with options.paging.maxMatches := cap }
  | .pairs enabled => modify fun b => { b with options.pairs := enabled }
  | .values row => do
    if row.isEmpty then throw (.emptyValues "values row is empty")
    modify fun b => { b with rows := b.rows ++ [row] }

/-- Declares something: how the call ended, and the builder afterwards. -/
def Builder.call (b : Builder) (c : Call) : Except Error Unit × Builder :=
  match c.perform.run b with
  | .ok _ after => (.ok (), after)
  | .error e after => (.error e, after)

end SearchSql
