/-
SearchSql.Execution.Log — the statements that were executed last.

A log keeps a limited number of entries. When it is full, a new entry takes
the place of the oldest one.
-/
import SearchSql.Execution.Context
import SearchSql.Json.Text

namespace SearchSql

open SearchSql.Number

/-- An executed statement. -/
structure Entry where
  sql : String
  startedAt : Instant
  duration : Duration
  error : Option String
deriving DecidableEq, Repr

namespace Entry

/-- The entry of an execution that has come out. -/
def ofOutcome (c : Context) (elapsed : Duration) (outcome : Outcome) : Entry :=
  ⟨c.sql, c.startedAt, elapsed, outcome.failure?⟩

/-- An entry as JSON text. -/
def json (e : Entry) : String :=
  Json.object
    [("sql", Json.string e.sql),
      ("started_at", Json.string e.startedAt.text),
      ("duration", Json.object
        [("secs", natText e.duration.seconds), ("nanos", natText e.duration.subsecond)]),
      ("error", match e.error with
        | some what => Json.string what
        | none => "null")]

end Entry

/-- The last executed statements, oldest first, at most `capacity` of them. -/
structure Log where
  capacity : Nat
  entries : List Entry
deriving DecidableEq, Repr

namespace Log

/-- A log that keeps at most `capacity` entries. -/
def ofCapacity (capacity : Nat) : Log := ⟨capacity, []⟩

/-- The capacity of a log that names none. -/
def standardCapacity : Nat := 100

/-- Adds an entry. Older entries go until there is room for it; a log without
capacity stays empty. -/
def record (l : Log) (e : Entry) : Log :=
  if l.capacity = 0 then l
  else { l with entries := l.entries.drop (l.entries.length + 1 - l.capacity) ++ [e] }

/-- What a log makes of a signal: it keeps what has come out. -/
def hear (l : Log) : Signal → Log
  | .complete context elapsed outcome => l.record (.ofOutcome context elapsed outcome)
  | .start _ | .slow _ _ => l

/-- The text of the newest entry. -/
def last? (l : Log) : Option String :=
  l.entries.getLast?.map Entry.sql

/-- The log without its entries. -/
def clear (l : Log) : Log :=
  { l with entries := [] }

def size (l : Log) : Nat :=
  l.entries.length

/-! ## Small facts -/

@[simp] theorem capacity_record (l : Log) (e : Entry) : (l.record e).capacity = l.capacity := by
  rw [record]
  split <;> rfl

@[simp] theorem capacity_hear (l : Log) (s : Signal) : (l.hear s).capacity = l.capacity := by
  cases s <;> simp [hear]

/-- A log that was within its capacity stays within it. -/
theorem size_record_le (l : Log) (e : Entry) (h : l.size ≤ l.capacity) :
    (l.record e).size ≤ l.capacity := by
  simp only [record, size] at h ⊢
  split
  · exact h
  · simp only [List.length_append, List.length_drop, List.length_cons, List.length_nil]
    omega

/-- An entry is the last one after it was recorded, given that there is room
for one. -/
theorem last?_record (l : Log) (e : Entry) (h : 0 < l.capacity) :
    (l.record e).last? = some e.sql := by
  rw [record, if_neg (by omega)]
  simp [last?]

end Log

/-- All the logs that there are. A log is known by its place, and everybody who knows
the place reads the same log and writes to it. -/
abbrev Logs := List Log

end SearchSql
