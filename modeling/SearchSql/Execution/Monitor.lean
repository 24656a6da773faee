/-
SearchSql.Execution.Monitor — who is told about executions.

A monitor is a tree. Its leaves do something with a signal: keep it in a log,
write a notice, hand it to an observer, or nothing at all. A group hands every
signal to its members, in the order in which they were added. The tree itself
never changes when it hears something. What changes are the logs, and a log may
stand in several places of one tree, in several trees, or be that of a
transport.
-/
import SearchSql.Execution.Event
import SearchSql.Execution.Log

namespace SearchSql

open SearchSql.Text

/-! ## 1. Leaves -/

/-- Writes a notice about what has come out and about what was slow. -/
structure NoticeWriter where
  /-- Faster executions are passed over. -/
  minimum : Option Duration
  /-- The most bytes of a statement that are shown. -/
  maxLength : Option Nat
deriving DecidableEq, Repr

namespace NoticeWriter

/-- The bytes of a statement that a writer shows if nothing else is said. -/
def standardLength : Nat := 200

/-- A statement as it is shown. -/
def shown (w : NoticeWriter) (sql : String) : String :=
  match w.maxLength with
  | some max => abridge max sql
  | none => sql

/-- Whether an execution is too fast to be mentioned. -/
def passesOver (w : NoticeWriter) (elapsed : Duration) : Bool :=
  match w.minimum with
  | some least => elapsed.nanos < least.nanos
  | none => false

/-- The notice about a signal, if there is one. -/
def notice? (w : NoticeWriter) : Signal → Option Notice
  | .start _ => none
  | .complete c elapsed outcome =>
    if w.passesOver elapsed then none
    else some (.finished c.kind c.tag outcome (w.shown c.sql))
  | .slow c _ => some (.slow c.kind (w.shown c.sql))

end NoticeWriter

/-- A recipient of signals. -/
inductive Leaf
  /-- Does nothing. -/
  | silent
  /-- Hands signals to an observer known by its name. -/
  | observer (name : String)
  /-- Writes notices. -/
  | writer (w : NoticeWriter)
  /-- Is the log at a place. -/
  | recorder (place : Nat)
deriving DecidableEq, Repr

/-- What a leaf makes of the logs when it hears a signal, and what is observed. -/
def Leaf.hear (s : Signal) (logs : Logs) : Leaf → Logs × List Event
  | .silent => (logs, [])
  | .observer name => (logs, [.signal name s])
  | .writer w => (logs, (w.notice? s).toList.map .notice)
  | .recorder place => (logs.modify place (·.hear s), [])

/-! ## 2. Trees -/

/-- Recipients of signals in a tree. -/
inductive Monitor
  | leaf (l : Leaf)
  /-- Hands signals to its members. -/
  | group (members : List Monitor)

namespace Monitor

mutual

/-- What the logs become when a monitor hears a signal, and what is observed. -/
def hear (s : Signal) (logs : Logs) : Monitor → Logs × List Event
  | .leaf l => l.hear s logs
  | .group members => hearEach s logs members

/-- The members of a group hear a signal one after the other. -/
def hearEach (s : Signal) (logs : Logs) : List Monitor → Logs × List Event
  | [] => (logs, [])
  | m :: rest =>
    let (logs, events) := hear s logs m
    let (logs, more) := hearEach s logs rest
    (logs, events ++ more)

end

/-- A monitor hears signals one after the other. -/
def hearAll (m : Monitor) (logs : Logs) : List Signal → Logs × List Event
  | [] => (logs, [])
  | s :: rest =>
    let (logs, events) := m.hear s logs
    let (logs, more) := m.hearAll logs rest
    (logs, events ++ more)

end Monitor

/-! ## 3. Groups -/

/-- Monitors that are put together, in the order in which they were added. -/
structure Group where
  members : List Monitor

namespace Group

/-- A group of nobody. -/
def empty : Group := ⟨[]⟩

/-- A group of monitors in a row. -/
def ofList (ms : List Monitor) : Group := ⟨ms⟩

/-- Puts a monitor behind the others. -/
def push (g : Group) (m : Monitor) : Group :=
  ⟨g.members ++ [m]⟩

/-- The group with one more monitor, which others may have too. -/
def withShared (g : Group) (m : Monitor) : Group :=
  g.push m

/-- The group with one more monitor of its own. -/
def withOwned (g : Group) (m : Monitor) : Group :=
  g.withShared m

def size (g : Group) : Nat :=
  g.members.length

def isEmpty (g : Group) : Bool :=
  g.members.isEmpty

/-- The group as a monitor. -/
def monitor (g : Group) : Monitor :=
  .group g.members

end Group

end SearchSql
