/-
SearchSql.Execution.Watched — a transport that is watched at its work.

Every call goes to the transport inside unchanged and comes back unchanged.
Around it, monitors hear of it if they are to be told, and the log, if there
is one, keeps it whether they are or not. That log is handed out on request.
Whoever has it may write to it and clear it, and it may be set as a monitor of
the same transport.
-/
import SearchSql.Execution.Settings
import SearchSql.Transport

namespace SearchSql

/-- The state of a watched transport. -/
structure Watched (σ : Type) where
  /-- The state of the transport inside. -/
  inner : σ
  monitor : Monitor
  settings : Settings
  /-- The place of the log that it keeps. -/
  log : Option Nat
  tag : Option String
  /-- All logs, those of monitors among them. -/
  logs : Logs

namespace Watched

/-! ## 1. Setting up -/

/-- A transport that nobody watches yet. -/
def ofInner (inner : σ) : Watched σ :=
  ⟨inner, .leaf .silent, .standard, none, none, []⟩

/-- Makes a log, behind all others. -/
def newLog (w : Watched σ) (capacity : Nat) : Watched σ :=
  { w with logs := w.logs ++ [.ofCapacity capacity] }

/-- Sets all settings, with a new log if they ask for one. -/
def withSettings (w : Watched σ) (s : Settings) : Watched σ :=
  if s.record then { w.newLog s.capacity with settings := s, log := some w.logs.length }
  else { w with settings := s, log := none }

/-- Sets the monitor in place of the one before. -/
def withMonitor (w : Watched σ) (m : Monitor) : Watched σ :=
  { w with monitor := m }

/-- Sets a monitor behind the one before. -/
def addMonitor (w : Watched σ) (m : Monitor) : Watched σ :=
  { w with monitor := ((Group.empty.withShared w.monitor).withOwned m).monitor }

/-- Tags all statements. -/
def withTag (w : Watched σ) (tag : String) : Watched σ :=
  { w with tag := some tag }

def withSlowThreshold (w : Watched σ) (d : Duration) : Watched σ :=
  { w with settings := { w.settings with slowThreshold := some d } }

/-- Lets monitors be told, or not. -/
def withEnabled (w : Watched σ) (enabled : Bool) : Watched σ :=
  { w with settings := { w.settings with enabled := enabled } }

/-! ## 2. The log -/

/-- Changes the log at a place. -/
def alterLog (w : Watched σ) (place : Nat) (f : Log → Log) : Watched σ :=
  { w with logs := w.logs.modify place f }

/-- Changes its own log, if it keeps one. -/
def alterOwnLog (w : Watched σ) (f : Log → Log) : Watched σ :=
  match w.log with
  | some place => w.alterLog place f
  | none => w

/-- The log that it keeps. -/
def ownLog? (w : Watched σ) : Option Log :=
  w.log.bind (w.logs[·]?)

/-- The executed statements that its log holds, oldest first. -/
def stats (w : Watched σ) : List Entry :=
  match w.ownLog? with
  | some log => log.entries
  | none => []

/-- The text of the last statement in its log. -/
def last? (w : Watched σ) : Option String :=
  w.ownLog?.bind Log.last?

/-! ## 3. Running -/

/-- The monitor hears signals, provided that it is to be told. -/
def tell (w : Watched σ) (signals : List Signal) : Watched σ × List Event :=
  if w.settings.enabled then
    let (logs, events) := w.monitor.hearAll w.logs signals
    ({ w with logs := logs }, events)
  else (w, [])

/-- What is noticed about a result by itself. -/
def noticed (sql : String) : Except Failure α → List Event
  | .ok _ => []
  | .error f => [.notice (.transportFailure f.message sql)]

/-- How a result counts as an outcome. -/
def outcome (summary : α → Outcome) : Except Failure α → Outcome
  | .ok a => summary a
  | .error f => .failure f.message

/-- The signals after a call. -/
def closing (s : Settings) (c : Context) (elapsed : Duration) (o : Outcome) : List Signal :=
  .complete c elapsed o :: if s.isSlow elapsed then [.slow c elapsed] else []

/-- Runs one call of the transport inside. `clock` reads the time off the
state. -/
def run (clock : σ → Instant) (call : String → σ → Exchange Failure σ α) (summary : α → Outcome)
    (sql : String) (w : Watched σ) : Exchange Failure (Watched σ) α :=
  let c := Context.ofText sql (clock w.inner) w.tag
  let (w, before) := w.tell [.start c]
  let reply := call sql w.inner
  let elapsed := (clock w.inner).elapsedTo (clock reply.state)
  let o := outcome summary reply.result
  let w := { w with inner := reply.state }.alterOwnLog (·.hear (.complete c elapsed o))
  let (w, behind) := w.tell (closing w.settings c elapsed o)
  ⟨reply.result, before ++ reply.events ++ noticed sql reply.result ++ behind, w⟩

/-- The watched transport. -/
def transport (inner : Transport σ) (clock : σ → Instant) : Transport (Watched σ) where
  query := run clock inner.query fun rows => .rows rows.length
  execute := run clock inner.execute .affected

end Watched

end SearchSql
