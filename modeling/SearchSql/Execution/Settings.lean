/-
SearchSql.Execution.Settings — how executions are watched.
-/
import SearchSql.Execution.Log
import SearchSql.Execution.Monitor

namespace SearchSql

/-- The settings of a watched transport. -/
structure Settings where
  /-- Whether monitors are told anything. -/
  enabled : Bool
  /-- Whether executed statements are kept in a log. -/
  record : Bool
  /-- How many statements the log keeps. -/
  capacity : Nat
  /-- Executions that take longer are slow. -/
  slowThreshold : Option Duration
  /-- The most bytes of a statement to show. -/
  maxSqlLength : Option Nat
deriving DecidableEq, Repr

/-- Nothing is watched and nothing recorded. -/
def Settings.standard : Settings :=
  ⟨false, false, Log.standardCapacity, none, some NoticeWriter.standardLength⟩

/-- Whether an execution was slow. -/
def Settings.isSlow (s : Settings) (elapsed : Duration) : Bool :=
  match s.slowThreshold with
  | some threshold => threshold.nanos < elapsed.nanos
  | none => false

end SearchSql
