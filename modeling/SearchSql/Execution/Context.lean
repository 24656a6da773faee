/-
SearchSql.Execution.Context — what is told about an execution: the statement,
how it came out, and the signals between the two.
-/
import SearchSql.Kind
import SearchSql.Number.Layout
import SearchSql.Text.Cut
import SearchSql.Time

namespace SearchSql

open SearchSql.Number SearchSql.Text

/-! ## 1. Context -/

/-- A statement on its way to the daemon. -/
structure Context where
  sql : String
  kind : Option Kind
  startedAt : Instant
  tag : Option String
deriving DecidableEq, Repr

/-- The context of a statement text. -/
def Context.ofText (sql : String) (now : Instant) (tag : Option String) : Context :=
  ⟨sql, Kind.ofText? sql, now, tag⟩

/-! ## 2. Outcome -/

/-- How an execution came out. -/
inductive Outcome
  | rows (count : Nat)
  | affected (count : UInt64)
  | failed (what : String)
deriving DecidableEq, Repr

namespace Outcome

/-- The most bytes of a failure's text that are kept. -/
def maxFailure : Nat := 512

/-- A failure, its text abridged. -/
def failure (what : String) : Outcome :=
  .failed (abridge maxFailure what)

def isFailure : Outcome → Bool
  | .failed _ => true
  | _ => false

def failure? : Outcome → Option String
  | .failed what => some what
  | _ => none

def text : Outcome → String
  | .rows count => natText count ++ " rows"
  | .affected count => natText count.toNat ++ " affected"
  | .failed what => "error: " ++ what

end Outcome

/-! ## 3. Signals -/

/-- What a monitor is told about an execution. -/
inductive Signal
  /-- The statement is about to be sent. -/
  | start (context : Context)
  /-- The statement has come out. -/
  | complete (context : Context) (elapsed : Duration) (outcome : Outcome)
  /-- The statement took long. -/
  | slow (context : Context) (elapsed : Duration)
deriving DecidableEq, Repr

def Signal.context : Signal → Context
  | .start context | .complete context _ _ | .slow context _ => context

end SearchSql
