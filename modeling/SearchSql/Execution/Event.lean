/-
SearchSql.Execution.Event — what can be observed while statements are compiled
and run.

A notice is a line of the program's log: a level, a message and named
attributes. The other events are signals handed to a named observer.
-/
import SearchSql.Execution.Context

namespace SearchSql

/-! ## 1. Notices -/

/-- The weight of a notice. -/
inductive Level
  | debug
  | info
  | warn
deriving DecidableEq, Repr

def Level.name : Level → String
  | .debug => "DEBUG"
  | .info => "INFO"
  | .warn => "WARN"

/-- A named part of a notice. -/
inductive Attribute
  | text (s : String)
  | count (n : Nat)
deriving DecidableEq, Repr

/-- What the library reports about its own work. -/
inductive Notice
  | compiled (kind : Kind) (sql : String)
  | conditionsIgnored (kind : Kind) (index : String) (predicates : Nat)
  | rawQuery (sql : String)
  | transportFailure (what sql : String)
  | finished (kind : Option Kind) (tag : Option String) (outcome : Outcome) (sql : String)
  | slow (kind : Option Kind) (sql : String)
deriving DecidableEq, Repr

namespace Notice

/-- A kind as notices name it. -/
def kindName : Option Kind → String
  | some kind => kind.keyword
  | none => "OTHER"

def level : Notice → Level
  | .compiled .. | .rawQuery _ | .transportFailure .. => .debug
  | .conditionsIgnored .. | .slow .. => .warn
  | .finished _ _ outcome _ => if outcome.isFailure then .warn else .info

def message : Notice → String
  | .compiled .. => "compiled statement"
  | .conditionsIgnored kind _ _ => "conditions are ignored for " ++ kind.keyword
  | .rawQuery _ => "raw query"
  | .transportFailure .. => "transport failure"
  | .finished _ _ outcome _ =>
    if outcome.isFailure then "statement failed" else "statement complete"
  | .slow .. => "slow statement"

def attributes : Notice → List (String × Attribute)
  | .compiled kind sql => [("kind", .text kind.keyword), ("sql", .text sql)]
  | .conditionsIgnored kind index predicates =>
    [("kind", .text kind.keyword), ("index", .text index), ("predicates", .count predicates)]
  | .rawQuery sql => [("sql", .text sql)]
  | .transportFailure what sql => [("error", .text what), ("sql", .text sql)]
  | .finished kind tag outcome sql =>
    [("kind", .text (kindName kind)), ("tag", .text (tag.getD "-")),
      ("result", .text outcome.text), ("sql", .text sql)]
  | .slow kind sql => [("kind", .text (kindName kind)), ("sql", .text sql)]

end Notice

/-! ## 2. Events -/

/-- What can be observed. -/
inductive Event
  | notice (notice : Notice)
  | signal (observer : String) (signal : Signal)
deriving DecidableEq, Repr

end SearchSql
