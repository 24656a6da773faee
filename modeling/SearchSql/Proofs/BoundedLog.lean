/-
SearchSql.Proofs.BoundedLog — what a log holds of all that was recorded in it.

A log of some capacity that was empty at first holds the last entries recorded,
oldest first, as many as it has room for. The same holds of the entries recorded
since it was cleared last.

* `Log.Keeps` — a log holds what it has to hold of a history of entries.
* `Log.Keeps.record`, `Log.Keeps.apply`, `Log.keeps_run` — kept by one entry, by one
  action and by many.
* `Log.Keeps.size`, `Log.Keeps.last?` — it is filled as far as it can be,
  and its newest entry is the last of the history.
* `Log.MakesRoom` — old entries going one by one until there is room for a new
  one, which takes an end in every log with a capacity and in no other
  (`Log.makesRoom_iff`).
* `Log.holds_newest` — what a log holds after any sequence of actions.
-/
import Mathlib.Data.List.DropRight
import SearchSql.Execution.Log

namespace SearchSql.Log

/-! ## 1. Histories -/

/-- The log holds the newest entries of a history, up to its capacity. -/
def Keeps (l : Log) (history : List Entry) : Prop :=
  l.entries = history.rtake l.capacity

variable {l : Log} {history : List Entry}

theorem keeps_ofCapacity (capacity : Nat) : (ofCapacity capacity).Keeps [] := by
  rw [Keeps, List.rtake_nil]
  rfl

/-- The newest of the newest are the newest. -/
theorem rtake_rtake {α : Type} (xs : List α) {m n : Nat} (h : n ≤ m) :
    (xs.rtake m).rtake n = xs.rtake n := by
  simp only [List.rtake, List.drop_drop, List.length_drop]
  congr 1
  omega

/-- Room is made for an entry by leaving out the oldest ones. -/
theorem Keeps.record (h : l.Keeps history) (e : Entry) : (l.record e).Keeps (history ++ [e]) := by
  rw [Keeps, capacity_record, Log.record]
  cases hc : l.capacity with
  | zero =>
    rw [Keeps, hc] at h
    simpa using h
  | succ room =>
    have hkept : l.entries.drop (l.entries.length + 1 - (room + 1)) = l.entries.rtake room := by
      rw [List.rtake, Nat.add_sub_add_right]
    rw [if_neg (Nat.succ_ne_zero room), List.rtake_concat_succ]
    simp only
    rw [hkept, h, hc, rtake_rtake history (Nat.le_succ room)]

theorem Keeps.size (h : l.Keeps history) : l.size = min l.capacity history.length := by
  rw [Log.size, h, List.rtake, List.length_drop]
  omega

/-- The last statement that a log tells is the last of the history, if the log
has room for any. -/
theorem Keeps.last? (h : l.Keeps history) :
    l.last? = if 0 < l.capacity then history.getLast?.map Entry.sql else none := by
  rw [Log.last?, h]
  cases l.capacity with
  | zero => simp
  | succ room =>
    cases history using List.reverseRecOn with
    | nil => simp
    | append_singleton history e => simp [List.rtake_concat_succ]

/-! ## 2. Making room -/

/-- Old entries go one by one until a log of some capacity has room for one more;
`kept` are the others. -/
inductive MakesRoom (capacity : Nat) : (entries kept : List Entry) → Prop
  /-- There is room. -/
  | done {entries : List Entry} (h : entries.length < capacity) :
    MakesRoom capacity entries entries
  /-- There is none, and the oldest entry goes. -/
  | evict {entries kept : List Entry} (h : capacity ≤ entries.length)
    (rest : MakesRoom capacity entries.tail kept) : MakesRoom capacity entries kept

/-- **Room is made in every log that has a capacity.** Where there is none the
entries never get few enough. -/
theorem makesRoom_iff {capacity : Nat} {entries kept : List Entry} :
    MakesRoom capacity entries kept ↔
      0 < capacity ∧ kept = entries.drop (entries.length + 1 - capacity) := by
  have hlength : ∀ {e : Entry} {entries : List Entry}, capacity ≤ (e :: entries).length →
      (e :: entries).length + 1 - capacity = entries.length + 1 - capacity + 1 := by
    intro e entries h
    rw [List.length_cons] at h ⊢
    omega
  constructor
  · intro h
    induction h with
    | done h =>
      refine ⟨by omega, ?_⟩
      rw [Nat.sub_eq_zero_of_le h, List.drop_zero]
    | @evict entries kept h rest ih =>
      obtain ⟨hcapacity, hkept⟩ := ih
      refine ⟨hcapacity, ?_⟩
      cases entries with
      | nil => exact absurd hcapacity (Nat.not_lt.2 h)
      | cons e entries => rw [hkept, hlength h, List.drop_succ_cons, List.tail_cons]
  · rintro ⟨hcapacity, rfl⟩
    induction entries with
    | nil =>
      rw [List.drop_nil]
      exact .done hcapacity
    | cons e entries ih =>
      by_cases h : (e :: entries).length < capacity
      · rw [Nat.sub_eq_zero_of_le h, List.drop_zero]
        exact .done h
      · have hfull : capacity ≤ (e :: entries).length := Nat.le_of_not_lt h
        rw [hlength hfull, List.drop_succ_cons]
        exact .evict hfull ih

/-- A log without capacity records nothing, and any other one makes room first. -/
theorem record_cases (l : Log) (e : Entry) :
    (l.capacity = 0 ∧ l.record e = l) ∨
      ∃ kept, MakesRoom l.capacity l.entries kept ∧ (l.record e).entries = kept ++ [e] := by
  rw [Log.record]
  split
  · next h => exact .inl ⟨h, rfl⟩
  · next h => exact .inr ⟨_, makesRoom_iff.2 ⟨Nat.pos_of_ne_zero h, rfl⟩, rfl⟩

/-! ## 3. Runs -/

/-- What is done to a log. -/
inductive Action
  /-- An entry is recorded. -/
  | record (e : Entry)
  /-- A signal is heard. -/
  | hear (s : Signal)
  /-- All entries are dropped. -/
  | clear

namespace Action

/-- The log after an action. -/
def apply (l : Log) : Action → Log
  | .record e => l.record e
  | .hear s => l.hear s
  | .clear => l.clear

/-- The entry that an action adds: one that is recorded, or that of a statement that
has come out. -/
def noted? : Action → Option Entry
  | .record e => some e
  | .hear (.complete context elapsed outcome) =>
    some ⟨context.sql, context.startedAt, elapsed, outcome.failure?⟩
  | .hear (.start _) | .hear (.slow _ _) | .clear => none

def isClear : Action → Bool
  | .clear => true
  | .record _ | .hear _ => false

end Action

/-- The log after several actions. -/
def run (l : Log) (actions : List Action) : Log :=
  actions.foldl Action.apply l

/-- The entries that were added since the log was cleared last, oldest first. -/
def added (actions : List Action) : List Entry :=
  (actions.rtakeWhile fun a => !a.isClear).filterMap Action.noted?

theorem run_append (l : Log) (actions more : List Action) :
    l.run (actions ++ more) = (l.run actions).run more := by
  rw [run, List.foldl_append]
  rfl

/-- What does nothing once does nothing if it is done often. -/
theorem run_replicate_of_apply_eq {a : Action} (h : ∀ l, a.apply l = l) (n : Nat) (l : Log) :
    l.run (List.replicate n a) = l := by
  induction n with
  | zero => rfl
  | succ n ih =>
    rw [List.replicate_succ, run, List.foldl_cons, h]
    exact ih

theorem run_replicate_congr {a b : Action} (h : ∀ l, a.apply l = b.apply l) (n : Nat) (l : Log) :
    l.run (List.replicate n a) = l.run (List.replicate n b) := by
  induction n generalizing l with
  | zero => rfl
  | succ n ih =>
    rw [List.replicate_succ, List.replicate_succ, run, run, List.foldl_cons, List.foldl_cons, h]
    exact ih _

theorem run_concat (l : Log) (actions : List Action) (a : Action) :
    l.run (actions ++ [a]) = a.apply (l.run actions) := by
  simp [run, Action.apply]

theorem added_concat (actions : List Action) (a : Action) :
    added (actions ++ [a]) =
      if a.isClear then [] else added actions ++ a.noted?.toList := by
  rw [added, List.rtakeWhile_concat]
  cases a.isClear <;> cases h : a.noted? <;> simp [added, h]

theorem added_map_record (es : List Entry) : added (es.map Action.record) = es := by
  induction es using List.reverseRecOn with
  | nil => rfl
  | append_singleton es e ih =>
    rw [List.map_append, List.map_singleton, added_concat, ih]
    rfl

/-- What an action does to the history of a log. -/
theorem Keeps.apply (h : l.Keeps history) (a : Action) :
    (a.apply l).Keeps (if a.isClear then [] else history ++ a.noted?.toList) := by
  cases a with
  | record e => exact h.record e
  | hear s =>
    cases s with
    | complete context elapsed outcome => exact h.record _
    | start context =>
      simpa [Action.apply, Log.hear, Action.isClear, Action.noted?] using h
    | slow context elapsed =>
      simpa [Action.apply, Log.hear, Action.isClear, Action.noted?] using h
  | clear => exact (List.rtake_nil _).symm

@[simp] theorem capacity_apply (l : Log) (a : Action) : (a.apply l).capacity = l.capacity := by
  cases a with
  | record e => exact capacity_record l e
  | hear s => exact capacity_hear l s
  | clear => rfl

@[simp] theorem capacity_run (l : Log) (actions : List Action) :
    (l.run actions).capacity = l.capacity := by
  induction actions using List.reverseRecOn with
  | nil => rfl
  | append_singleton actions a ih => rw [run_concat, capacity_apply, ih]

/-- After every sequence of actions a log keeps what was added. -/
theorem keeps_run (capacity : Nat) (actions : List Action) :
    ((ofCapacity capacity).run actions).Keeps (added actions) := by
  induction actions using List.reverseRecOn with
  | nil => exact keeps_ofCapacity capacity
  | append_singleton actions a ih =>
    rw [run_concat, added_concat]
    exact ih.apply a

/-- **A log is a queue of limited length, over all that is done to it.** It holds the
newest of the entries that were added since it was cleared last, unchanged and oldest
first, as many of them as it has room for. The last statement that it tells is the
newest of all. The entry of a statement that has come out tells of a failure just
where there was one. Whatever was done before, making room for another entry takes an
end, or is not begun with in a log without capacity. -/
theorem holds_newest (capacity : Nat) (actions : List Action) :
    let l := (ofCapacity capacity).run actions
    let es := added actions
    l.entries = es.rtake (min capacity es.length) ∧ l.size ≤ capacity ∧
      l.last? = (if 0 < capacity then es.getLast?.map Entry.sql else none) ∧
      (∀ context elapsed outcome, ∃ e : Entry,
        (Action.hear (.complete context elapsed outcome)).noted? = some e ∧
          e.sql = context.sql ∧ e.startedAt = context.startedAt ∧ e.duration = elapsed ∧
          (e.error.isSome ↔ ∃ what, outcome = .failed what)) ∧
      ∀ e, (capacity = 0 ∧ l.record e = l) ∨
        ∃ kept, MakesRoom capacity l.entries kept ∧ (l.record e).entries = kept ++ [e] := by
  intro l es
  have hkeeps : l.Keeps es := keeps_run capacity actions
  have hcapacity : l.capacity = capacity := capacity_run (ofCapacity capacity) actions
  refine ⟨?_, ?_, ?_, ?_, ?_⟩
  · rw [hkeeps, hcapacity, List.rtake, List.rtake]
    congr 1
    omega
  · rw [hkeeps.size, hcapacity]
    exact Nat.min_le_left _ _
  · rw [hkeeps.last?, hcapacity]
  · intro context elapsed outcome
    refine ⟨_, rfl, rfl, rfl, rfl, ?_⟩
    cases outcome <;> simp [Outcome.failure?]
  · intro e
    rw [← hcapacity]
    exact record_cases l e

end SearchSql.Log
