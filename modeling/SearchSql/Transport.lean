/-
SearchSql.Transport — the connection to the daemon.

The library opens no connection. Whatever can run a complete statement and
answer with rows or with a count of changed rows is a transport. A transport
lives in a state of its own, which every call may change.
-/
import SearchSql.Error
import SearchSql.Execution.Event
import SearchSql.Row

namespace SearchSql

/-- What comes of a call: its result, what was observed meanwhile, and the
state afterwards. -/
structure Exchange (ε : Type) (σ : Type) (α : Type) where
  result : Except ε α
  events : List Event
  state : σ

namespace Exchange

/-- The exchange with what was observed before it. -/
def after (e : Exchange ε σ α) (earlier : List Event) : Exchange ε σ α :=
  { e with events := earlier ++ e.events }

/-- The exchange with its result worked on. -/
def mapResult (e : Exchange ε σ α) (f : Except ε α → Except ε' β) : Exchange ε' σ β :=
  ⟨f e.result, e.events, e.state⟩

end Exchange

/-- A failure that a transport reports. -/
structure Failure where
  message : String
deriving DecidableEq, Repr

/-- Runs statements. -/
structure Transport (σ : Type) where
  /-- Runs a statement that answers with rows. -/
  query : String → σ → Exchange Failure σ (List Row)
  /-- Runs a statement that answers with the number of changed rows. -/
  execute : String → σ → Exchange Failure σ UInt64

namespace Transport

/-- The result of a call with its failure tied to the statement that failed. -/
def tied (sql : String) : Except Failure α → Except Error α
  | .ok a => .ok a
  | .error f => .error (.transport f.message sql)

/-- Sends a statement text as it is and hands out the rows as they come. -/
def rawQuery (t : Transport σ) (sql : String) (state : σ) : Exchange Error σ (List Row) :=
  ((t.query sql state).mapResult (tied sql)).after [.notice (.rawQuery sql)]

end Transport

end SearchSql
