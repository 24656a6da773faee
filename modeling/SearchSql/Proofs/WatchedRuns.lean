/-
SearchSql.Proofs.WatchedRuns — a watched transport against the one inside.

The transport inside is run alone through the same calls, by somebody who
stands beside it and writes down each execution (`Transport.executions`). A
watched transport makes the same calls of it and answers what it answers,
whatever monitors hear of it and however the watching is adjusted between the
calls. Its log has what was written down as long as nobody else writes to it.
It may be in other hands: it is handed out on request, and then it may be a
monitor of the same transport, or be written to or cleared between calls.

* `Transport.send`, `Transport.executions` — one call and calls in a row.
* `Watched.send_transport` — all that one call of a watched transport does.
* `Watched.run_eq_executions` — calls and adjustments, from any watched transport.
* `Watched.getElem?_after` — what is done to a log in a run.
* `Watched.run_follows_inner` — the same from new settings on, with what the log holds;
  `Watched.not_exact_of_shared_log` has runs in which the log is in other hands.
-/
import SearchSql.Execution.Watched
import SearchSql.Proofs.MonitorLeaves
import SearchSql.Proofs.SentStatements

namespace SearchSql

open SearchSql.Text

/-! ## 1. Calls of a transport -/

def Sent.sql : Sent → String
  | .query sql | .execute sql => sql

/-- What a transport answers to a call. -/
inductive Reply
  | rows (rows : List Row)
  | count (count : UInt64)
deriving DecidableEq

/-- A reply as an outcome: how many rows there are, or were changed. -/
def Reply.outcome : Reply → Outcome
  | .rows rs => .rows rs.length
  | .count n => .affected n

/-- What somebody beside a transport writes down of a call. -/
structure Execution where
  call : Sent
  startedAt : Instant
  elapsed : Duration
  result : Except Failure Reply

namespace Execution

/-- How an execution came out: a failure is told by its text, cut to a limit. -/
def outcome (x : Execution) : Outcome :=
  match x.result with
  | .ok reply => reply.outcome
  | .error f => .failed (abridge 512 f.message)

/-- The entry that a log keeps of an execution: of failures, the text, cut to a
limit. -/
def entry (x : Execution) : Entry where
  sql := x.call.sql
  startedAt := x.startedAt
  duration := x.elapsed
  error := match x.result with
    | .ok _ => none
    | .error f => some (abridge 512 f.message)

/-- What monitors are told of the statement under way. -/
def context (tag : Option String) (x : Execution) : Context :=
  ⟨x.call.sql, Kind.ofText? x.call.sql, x.startedAt, tag⟩

end Execution

namespace Transport

/-- Makes a call. -/
def send (t : Transport σ) (state : σ) : Sent → Exchange Failure σ Reply
  | .query sql => (t.query sql state).mapResult (Except.map .rows)
  | .execute sql => (t.execute sql state).mapResult (Except.map .count)

/-- The execution of a call, with the times that a clock shows. -/
def execution (t : Transport σ) (clock : σ → Instant) (state : σ) (c : Sent) : Execution where
  call := c
  startedAt := clock state
  elapsed := (clock state).elapsedTo (clock (t.send state c).state)
  result := (t.send state c).result

/-- The executions of calls one after the other. -/
def executions (t : Transport σ) (clock : σ → Instant) (state : σ) : List Sent → List Execution
  | [] => []
  | c :: cs => t.execution clock state c :: executions t clock (t.send state c).state cs

/-- The state after calls one after the other. -/
def stateAfter (t : Transport σ) (state : σ) (cs : List Sent) : σ :=
  cs.foldl (fun state c => (t.send state c).state) state

/-- A transport that notes its calls answers as before. -/
theorem send_noting (t : Transport σ) (calls : List Sent) (state : σ) (c : Sent) :
    t.noting.send (calls, state) c = noted (calls ++ [c]) (t.send state c) := by
  cases c <;> rfl

theorem executions_noting (t : Transport σ) (clock : σ → Instant) (calls : List Sent) (state : σ)
    (cs : List Sent) :
    t.noting.executions (fun s => clock s.2) (calls, state) cs = t.executions clock state cs := by
  induction cs generalizing calls state with
  | nil => rfl
  | cons c cs ih =>
    rw [executions, executions, send_noting]
    congr 1
    · simp only [execution, send_noting]
      rfl
    · exact ih _ _

/-- The calls that are noted are those that are made, in their order. -/
theorem stateAfter_noting (t : Transport σ) (calls : List Sent) (state : σ) (cs : List Sent) :
    t.noting.stateAfter (calls, state) cs = (calls ++ cs, t.stateAfter state cs) := by
  induction cs generalizing calls state with
  | nil => simp [stateAfter]
  | cons c cs ih =>
    have hstep : t.noting.stateAfter (calls, state) (c :: cs)
        = t.noting.stateAfter (calls ++ [c], (t.send state c).state) cs := by
      rw [stateAfter, List.foldl_cons, send_noting]
      rfl
    rw [hstep, ih, List.append_assoc]
    rfl

theorem map_call_executions (t : Transport σ) (clock : σ → Instant) (state : σ) (cs : List Sent) :
    (t.executions clock state cs).map Execution.call = cs := by
  induction cs generalizing state with
  | nil => rfl
  | cons c cs ih => rw [executions, List.map_cons, ih]; rfl

end Transport

namespace Watched

/-! ## 2. One call -/

/-- The signals before a call. -/
def opening (w : Watched σ) (x : Execution) : List Signal :=
  if w.settings.enabled then [.start (x.context w.tag)] else []

/-- The signals after a call. -/
def ending (w : Watched σ) (x : Execution) : List Signal :=
  if w.settings.enabled then
    .complete (x.context w.tag) x.elapsed x.outcome ::
      if ∃ d ∈ w.settings.slowThreshold, d.nanos < x.elapsed.nanos then
        [.slow (x.context w.tag) x.elapsed]
      else []
  else []

/-- The logs once the transport has recorded an execution in its own. -/
def recordIn (w : Watched σ) (x : Execution) (logs : Logs) : Logs :=
  match w.log with
  | some place => logs.modify place (·.record x.entry)
  | none => logs

theorem isSlow_iff (s : Settings) (elapsed : Duration) :
    s.isSlow elapsed = true ↔ ∃ d ∈ s.slowThreshold, d.nanos < elapsed.nanos := by
  rw [Settings.isSlow]
  cases s.slowThreshold <;> simp

/-- What the monitor is told it hears, unless it is not to be told anything. -/
theorem tell_eq (w : Watched σ) (ss : List Signal) :
    w.tell ss
      = ({ w with logs := (w.monitor.hearAll w.logs (if w.settings.enabled then ss else [])).1 },
        (w.monitor.hearAll w.logs (if w.settings.enabled then ss else [])).2) := by
  rw [tell]
  split <;> rfl

theorem ending_eq (w : Watched σ) (x : Execution) :
    w.ending x = if w.settings.enabled then
      closing w.settings (x.context w.tag) x.elapsed x.outcome else [] := by
  simp only [ending, closing, isSlow_iff]

theorem outcome_map (f : α → Reply) (result : Except Failure α) (c : Sent) (startedAt : Instant)
    (elapsed : Duration) :
    outcome (fun a => (f a).outcome) result
      = Execution.outcome ⟨c, startedAt, elapsed, result.map f⟩ := by
  cases result <;> rfl

theorem noticed_map (f : α → Reply) (sql : String) (result : Except Failure α) :
    noticed sql (result.map f) = noticed sql result := by
  cases result <;> rfl

/-- What a log hears at the end of an execution is its entry. -/
theorem hear_complete (l : Log) (x : Execution) (tag : Option String) :
    l.hear (.complete (x.context tag) x.elapsed x.outcome) = l.record x.entry := by
  obtain ⟨c, startedAt, elapsed, result⟩ := x
  rcases result with f | reply
  · rfl
  · cases reply <;> rfl

theorem alterOwnLog_complete (w : Watched σ) (x : Execution) (tag : Option String) :
    w.alterOwnLog (·.hear (.complete (x.context tag) x.elapsed x.outcome))
      = { w with logs := w.recordIn x w.logs } := by
  obtain ⟨inner, monitor, settings, log, tag, logs⟩ := w
  simp only [alterOwnLog, recordIn, hear_complete]
  cases log <;> rfl

/-- One call, of either method: `f` makes a reply of its result. -/
theorem run_eq (f : α → Reply) (clock : σ → Instant) (call : String → σ → Exchange Failure σ α)
    (w : Watched σ) (c : Sent) :
    let reply := call c.sql w.inner
    let x : Execution := ⟨c, clock w.inner, (clock w.inner).elapsedTo (clock reply.state),
      reply.result.map f⟩
    let before := w.monitor.hearAll w.logs (w.opening x)
    let behind := w.monitor.hearAll (w.recordIn x before.1) (w.ending x)
    (run clock call (fun a => (f a).outcome) c.sql w).mapResult (Except.map f) =
      ⟨x.result, before.2 ++ reply.events ++ noticed c.sql x.result ++ behind.2,
        { w with inner := reply.state, logs := behind.1 }⟩ := by
  intro reply x before behind
  have hcontext : Context.ofText c.sql (clock w.inner) w.tag = x.context w.tag := rfl
  have helapsed : (clock w.inner).elapsedTo (clock (call c.sql w.inner).state) = x.elapsed := rfl
  have houtcome : outcome (fun a => (f a).outcome) (call c.sql w.inner).result = x.outcome :=
    outcome_map f reply.result c _ _
  have hnoticed : noticed c.sql (call c.sql w.inner).result = noticed c.sql x.result :=
    (noticed_map f c.sql reply.result).symm
  simp only [run, tell_eq, hcontext, helapsed, houtcome, alterOwnLog_complete, hnoticed,
    Exchange.mapResult]
  simp only [behind, before, opening, ending_eq]
  rfl

/-- **All that one call of a watched transport does.** The call goes to the
transport inside and its result comes back; the monitor hears of it before and
behind, and in between its own log records it. -/
theorem send_transport (t : Transport σ) (clock : σ → Instant) (w : Watched σ) (c : Sent) :
    let x := t.execution clock w.inner c
    let before := w.monitor.hearAll w.logs (w.opening x)
    let behind := w.monitor.hearAll (w.recordIn x before.1) (w.ending x)
    (transport t clock).send w c =
      ⟨x.result, before.2 ++ (t.send w.inner c).events ++ noticed c.sql x.result ++ behind.2,
        { w with inner := (t.send w.inner c).state, logs := behind.1 }⟩ := by
  cases c with
  | query sql => exact run_eq Reply.rows clock t.query w (.query sql)
  | execute sql => exact run_eq Reply.count clock t.execute w (.execute sql)

/-! ## 3. Runs -/

/-- What can be set at a watched transport between calls. Setting a monitor is
one adjustment, whether or not the monitor is shared. -/
inductive Adjustment
  | tag (tag : String)
  | monitor (m : Monitor)
  | addMonitor (m : Monitor)
  | enabled (enabled : Bool)
  | slowThreshold (d : Duration)

/-- The watched transport with one thing set. -/
def adjust (w : Watched σ) : Adjustment → Watched σ
  | .tag tag => w.withTag tag
  | .monitor m => w.withMonitor m
  | .addMonitor m => w.addMonitor m
  | .enabled enabled => w.withEnabled enabled
  | .slowThreshold d => w.withSlowThreshold d

/-- A step of a run. -/
inductive Step
  | call (c : Sent)
  | adjust (a : Adjustment)
  /-- A log is made, for whoever may want it. -/
  | newLog (capacity : Nat)
  /-- Somebody who has the log at a place does something to it. If it is an observer
  that hears of a call, this stands in front of the call, or behind it, as the observer
  hears of the start or of the outcome; a log that is no leaf cannot tell the
  difference. -/
  | act (place : Nat) (a : Log.Action)

def Step.call? : Step → Option Sent
  | .call c => some c
  | .adjust _ | .newLog _ | .act _ _ => none

/-- The watched transport after a step. -/
def step (t : Transport σ) (clock : σ → Instant) (w : Watched σ) : Step → Watched σ
  | .call c => ((transport t clock).send w c).state
  | .adjust a => w.adjust a
  | .newLog capacity => w.newLog capacity
  | .act place a => w.alterLog place a.apply

/-- The watched transport after steps one after the other. -/
def after (t : Transport σ) (clock : σ → Instant) (w : Watched σ) (steps : List Step) :
    Watched σ :=
  steps.foldl (step t clock) w

/-- The results of the calls of a run. -/
def results (t : Transport σ) (clock : σ → Instant) (w : Watched σ) :
    List Step → List (Except Failure Reply)
  | [] => []
  | .call c :: rest =>
    ((transport t clock).send w c).result :: results t clock (w.step t clock (.call c)) rest
  | s :: rest => results t clock (w.step t clock s) rest

variable (t : Transport σ) (clock : σ → Instant)

/-- Nothing but a call touches the transport inside. -/
theorem inner_step {s : Step} (h : s.call? = none) (w : Watched σ) :
    (w.step t clock s).inner = w.inner := by
  cases s with
  | call c => cases h
  | adjust a => cases a <;> rfl
  | newLog | act => rfl

/-- No step sets another log in place of its own. -/
theorem log_step (w : Watched σ) (s : Step) : (w.step t clock s).log = w.log := by
  cases s with
  | call c => rw [step, send_transport]
  | adjust a => cases a <;> rfl
  | newLog | act => rfl

/-- A run against the calls alone: the transport inside goes through them as it
would by itself, and its results come back. -/
theorem run_eq_executions (w : Watched σ) (steps : List Step) :
    let made := steps.filterMap Step.call?
    (w.after t clock steps).inner = t.stateAfter w.inner made ∧
      w.results t clock steps = (t.executions clock w.inner made).map Execution.result := by
  -- On the steps, from every watched transport: a call adds one execution in front,
  -- anything else touches nothing that is spoken of here.
  induction steps generalizing w with
  | nil => exact ⟨rfl, rfl⟩
  | cons s steps ih =>
    obtain ⟨hinner, hresults⟩ := ih (w.step t clock s)
    cases s with
    | call c =>
      have hstep : (w.step t clock (.call c)).inner = (t.send w.inner c).state := by
        rw [step, send_transport]
      have hresult : ((transport t clock).send w c).result = (t.execution clock w.inner c).result := by
        rw [send_transport]
      rw [hstep] at hinner hresults
      refine ⟨hinner, ?_⟩
      rw [results, hresult, hresults]
      rfl
    | adjust | newLog | act =>
      rw [inner_step t clock rfl] at hinner hresults
      exact ⟨hinner, hresults⟩

/-! ## 4. Logs in a run -/

/-- How often a log is told of a call by the monitor: as often as it is a leaf, if
monitors are to be told. -/
def told (w : Watched σ) (place : Nat) : Nat :=
  if w.settings.enabled then w.monitor.copies place else 0

/-- What is done in a run to the log at a place, given that it is the transport's own.
A call is recorded by the transport, and once more by each leaf that is this log. -/
def doings (place : Nat) (w : Watched σ) : List Step → List Log.Action
  | [] => []
  | .call c :: rest =>
    List.replicate (1 + w.told place) (.record (t.execution clock w.inner c).entry)
      ++ doings place (w.step t clock (.call c)) rest
  | .act other a :: rest =>
    (if other = place then [a] else []) ++ doings place (w.step t clock (.act other a)) rest
  | s :: rest => doings place (w.step t clock s) rest

/-- A log makes nothing of the signals before a call. -/
theorem run_opening (w : Watched σ) (x : Execution) (n : Nat) (l : Log) :
    l.run ((w.opening x).flatMap fun s => List.replicate n (.hear s)) = l := by
  unfold opening
  split
  · rw [List.flatMap_singleton]
    exact Log.run_replicate_of_apply_eq (fun _ => rfl) n l
  · rfl

/-- Of the signals behind a call, a log makes an entry whenever it is told. -/
theorem run_ending (w : Watched σ) (x : Execution) (place : Nat) (l : Log) :
    l.run ((w.ending x).flatMap fun s => List.replicate (w.monitor.copies place) (.hear s))
      = l.run (List.replicate (w.told place) (.record x.entry)) := by
  have hcomplete : ∀ l : Log,
      (Log.Action.hear (.complete (x.context w.tag) x.elapsed x.outcome)).apply l
        = (Log.Action.record x.entry).apply l := fun l => hear_complete l x w.tag
  unfold ending told
  split
  · rw [List.flatMap_cons, Log.run_append, Log.run_replicate_congr hcomplete]
    split
    · rw [List.flatMap_singleton]
      exact Log.run_replicate_of_apply_eq (fun _ => rfl) _ _
    · rfl
  · rfl

/-- What a call does to the transport's own log. -/
theorem getElem?_send {place : Nat} {l : Log} {w : Watched σ} (hown : w.log = some place)
    (h : w.logs[place]? = some l) (c : Sent) :
    (w.step t clock (.call c)).logs[place]?
      = some (l.run (List.replicate (1 + w.told place)
          (.record (t.execution clock w.inner c).entry))) := by
  let x := t.execution clock w.inner c
  have hbefore := w.monitor.getElem?_hearAll place (w.opening x) h
  rw [run_opening] at hbefore
  have hkept : (w.recordIn x (w.monitor.hearAll w.logs (w.opening x)).1)[place]?
      = some (l.record x.entry) := by
    simp [recordIn, hown, hbefore]
  have hbehind := w.monitor.getElem?_hearAll place (w.ending x) hkept
  rw [run_ending] at hbehind
  rw [step, send_transport, Nat.add_comm, List.replicate_succ]
  exact hbehind

/-- **What becomes of the transport's own log in a run** is what is done to it. -/
theorem getElem?_after {place : Nat} {w : Watched σ} (hown : w.log = some place)
    (steps : List Step) {l : Log} (h : w.logs[place]? = some l) :
    (w.after t clock steps).logs[place]? = some (l.run (w.doings t clock place steps)) := by
  induction steps generalizing w l with
  | nil => exact h
  | cons s steps ih =>
    have hnext := (log_step t clock w s).trans hown
    cases s with
    | call c =>
      rw [doings, Log.run_append]
      exact ih hnext (getElem?_send t clock hown h c)
    | adjust a =>
      refine ih hnext ?_
      cases a <;> exact h
    | newLog capacity =>
      refine ih hnext ?_
      rw [step, newLog, List.getElem?_append_left (List.getElem?_eq_some_iff.1 h).1]
      exact h
    | act other a =>
      rw [doings, Log.run_append]
      refine ih hnext ?_
      by_cases hother : other = place
      · subst hother
        simp [step, alterLog, h, Log.run]
      · simp [step, alterLog, h, hother, Log.run]

/-- A step that does nothing to the log at a place but let the transport record a call:
no monitor that is set is this log, and nobody who has it writes to it or clears it. -/
def Step.LeavesAlone (place : Nat) : Step → Prop
  | .adjust (.monitor m) | .adjust (.addMonitor m) => m.copies place = 0
  | .act other _ => other ≠ place
  | .call _ | .adjust (.tag _) | .adjust (.enabled _) | .adjust (.slowThreshold _) | .newLog _ =>
    True

/-- A monitor that is added stands behind those before it. -/
theorem leaves_addMonitor (w : Watched σ) (m : Monitor) :
    (w.addMonitor m).monitor.leaves = w.monitor.leaves ++ m.leaves := by
  simp only [addMonitor, Group.withOwned, Group.withShared, Group.leaves_push]
  rfl

theorem copies_step {place : Nat} {w : Watched σ} (hw : w.monitor.copies place = 0) {s : Step}
    (h : s.LeavesAlone place) : (w.step t clock s).monitor.copies place = 0 := by
  cases s with
  | call c =>
    rw [step, send_transport]
    exact hw
  | adjust a =>
    cases a with
    | monitor m => exact h
    | addMonitor m =>
      have hm : m.copies place = 0 := h
      simp only [Monitor.copies] at hw hm ⊢
      rw [step, adjust, leaves_addMonitor, List.count_append, hw, hm]
    | tag | enabled | slowThreshold => exact hw
  | newLog | act => exact hw

/-- A log that is left alone has each call recorded once. -/
theorem doings_of_leavesAlone {place : Nat} {w : Watched σ} (hw : w.monitor.copies place = 0)
    {steps : List Step} (h : ∀ s ∈ steps, s.LeavesAlone place) :
    w.doings t clock place steps
      = (t.executions clock w.inner (steps.filterMap Step.call?)).map fun x => .record x.entry := by
  induction steps generalizing w with
  | nil => rfl
  | cons s steps ih =>
    have hs := h s List.mem_cons_self
    have hrest := ih (copies_step t clock hw hs) fun s hs => h s (List.mem_cons_of_mem _ hs)
    cases s with
    | call c =>
      have htold : w.told place = 0 := by simp [told, hw]
      have hinner : (w.step t clock (.call c)).inner = (t.send w.inner c).state := by
        rw [step, send_transport]
      rw [doings, hrest, htold, hinner]
      rfl
    | act other a =>
      rw [doings, hrest, if_neg hs]
      rfl
    | adjust | newLog =>
      rw [inner_step t clock rfl] at hrest
      exact hrest

theorem log_after (w : Watched σ) (steps : List Step) : (w.after t clock steps).log = w.log := by
  induction steps generalizing w with
  | nil => rfl
  | cons s steps ih => exact (ih _).trans (log_step t clock w s)

/-- The transport's log holds the newest of some entries, up to a capacity, and tells the
text of the last one. -/
structure HoldsNewest (w : Watched σ) (capacity : Nat) (es : List Entry) : Prop where
  stats : w.stats = es.rtake capacity
  size : w.stats.length = min capacity es.length
  last : w.last? = if 0 < capacity then es.getLast?.map Entry.sql else none

/-- A new log of the transport holds after a run what was done to it. -/
theorem holdsNewest_after {place : Nat} {w : Watched σ} (hown : w.log = some place) {capacity : Nat}
    (h : w.logs[place]? = some (.ofCapacity capacity)) (steps : List Step) :
    (w.after t clock steps).HoldsNewest capacity (Log.added (w.doings t clock place steps)) := by
  have hlog : (w.after t clock steps).ownLog?
      = some ((Log.ofCapacity capacity).run (w.doings t clock place steps)) := by
    rw [ownLog?, log_after, hown]
    exact getElem?_after t clock hown steps h
  have hkeeps := Log.keeps_run capacity (w.doings t clock place steps)
  have hcapacity := Log.capacity_run (.ofCapacity capacity) (w.doings t clock place steps)
  have hsize := hkeeps.size
  have hlast := hkeeps.last?
  rw [hcapacity] at hsize hlast
  rw [Log.Keeps, hcapacity] at hkeeps
  constructor
  · rw [Watched.stats, hlog]
    exact hkeeps
  · rw [Watched.stats, hlog]
    exact hsize
  · rw [Watched.last?, hlog]
    exact hlast

/-! ## 5. From new settings on -/

/-- **A watched transport shows what the transport inside does, and its log is exact as
long as it is left alone.** After new settings, whatever they are, and any steps: the
transport inside has received the calls as they were made, by the same method, with the
same text, in the same order, and their results are those of the transport alone. Where
a log is kept, it has the newest entries, up to its capacity, of what was done to it
since it was cleared: a call is recorded once, and once more for each leaf of the
monitor that is this log. If no leaf is and nobody else does anything to it, these are
the newest of the calls with their failures. -/
theorem run_follows_inner (w : Watched (List Sent × σ)) (s : Settings) (steps : List Step) :
    let made := steps.filterMap Step.call?
    let beside := t.executions clock w.inner.2 made
    let shown : List Sent × σ → Instant := fun inner => clock inner.2
    let first := w.withSettings s
    let last := first.after t.noting shown steps
    last.inner = (w.inner.1 ++ made, t.stateAfter w.inner.2 made) ∧
      first.results t.noting shown steps = beside.map Execution.result ∧
      beside.map (fun x => x.entry.sql) = made.map Sent.sql ∧
      (s.record = false → last.stats = [] ∧ last.last? = none) ∧
      (s.record = true → ∃ place, first.log = some place ∧
        last.HoldsNewest s.capacity (Log.added (first.doings t.noting shown place steps)) ∧
        (w.monitor.copies place = 0 → (∀ step ∈ steps, step.LeavesAlone place) →
          last.HoldsNewest s.capacity (beside.map Execution.entry))) := by
  intro made beside shown first last
  have hinner : first.inner = w.inner := by
    simp only [first, withSettings]
    split <;> rfl
  have hmonitor : first.monitor = w.monitor := by
    simp only [first, withSettings]
    split <;> rfl
  obtain ⟨hreached, hresults⟩ := run_eq_executions t.noting shown first steps
  rw [hinner, t.stateAfter_noting] at hreached
  rw [hinner, t.executions_noting] at hresults
  refine ⟨hreached, hresults, ?_, fun hrecord => ?_, fun hrecord => ?_⟩
  · rw [← t.map_call_executions clock w.inner.2 made, List.map_map]
    rfl
  · have hnone : last.ownLog? = none := by
      rw [ownLog?, log_after]
      simp [first, withSettings, hrecord]
    rw [stats, last?, hnone]
    exact ⟨rfl, rfl⟩
  · have hown : first.log = some w.logs.length := by simp [first, withSettings, hrecord]
    have hnew : first.logs[w.logs.length]? = some (.ofCapacity s.capacity) := by
      simp [first, withSettings, hrecord, newLog]
    have hholds := holdsNewest_after t.noting shown hown hnew steps
    refine ⟨_, hown, hholds, fun hcopies halone => ?_⟩
    rw [← hmonitor] at hcopies
    have hdoings := doings_of_leavesAlone t.noting shown hcopies halone
    rw [hinner, t.executions_noting] at hdoings
    have hadded : Log.added (first.doings t.noting shown w.logs.length steps)
        = beside.map Execution.entry := by
      rw [hdoings, ← Log.added_map_record (beside.map Execution.entry), List.map_map]
      rfl
    rwa [hadded] at hholds

/-- Two calls, one of them without success, with monitors set in between that write to
another log. -/
theorem run_follows_inner_of_other_log :
    let t : Transport Unit := ⟨fun _ u => ⟨.ok [], [], u⟩, fun _ u => ⟨.error ⟨"absent"⟩, [], u⟩⟩
    let settings : Settings := { Settings.standard with enabled := true, record := true }
    let w : Watched (List Sent × Unit) := ofInner ([], ())
    let steps : List Step := [.call (.query "SELECT 1"), .newLog 5,
      .adjust (.addMonitor (.group [.leaf (.recorder 1), .leaf (.observer "a")])),
      .act 1 .clear, .call (.execute "DELETE 2")]
    settings.record = true ∧ w.monitor.copies 0 = 0 ∧
      (∀ step ∈ steps, step.LeavesAlone 0) ∧
      ((w.withSettings settings).after t.noting (fun _ => ⟨0⟩) steps).stats
        = [⟨"SELECT 1", ⟨0⟩, ⟨0⟩, none⟩, ⟨"DELETE 2", ⟨0⟩, ⟨0⟩, some "absent"⟩] := by
  intro t settings w steps
  have hcopies : w.monitor.copies 0 = 0 := by decide
  have halone : ∀ step ∈ steps, step.LeavesAlone 0 := by
    intro step hstep
    simp only [steps, List.mem_cons, List.not_mem_nil, or_false] at hstep
    rcases hstep with rfl | rfl | rfl | rfl | rfl
    · trivial
    · trivial
    · show Monitor.copies _ 0 = 0
      decide
    · show 1 ≠ 0
      decide
    · trivial
  obtain ⟨-, -, -, -, hlog⟩ :=
    run_follows_inner t (fun _ => ⟨0⟩) w settings steps
  obtain ⟨place, hplace, -, hexact⟩ := hlog rfl
  cases hplace
  refine ⟨rfl, hcopies, halone, (hexact hcopies halone).stats.trans ?_⟩
  decide

/-- The log may be in other hands: set as a monitor of the same transport, it has a call
twice, and if somebody clears it, it has lost what was called before. -/
theorem not_exact_of_shared_log :
    let t : Transport Unit := ⟨fun _ u => ⟨.ok [], [], u⟩, fun _ u => ⟨.ok 1, [], u⟩⟩
    let clock : Unit → Instant := fun _ => ⟨0⟩
    let settings : Settings := { Settings.standard with enabled := true, record := true }
    let first := (ofInner ()).withSettings settings
    let shared : List Step :=
      [.adjust (.monitor (.leaf (.recorder 0))), .call (.execute "DELETE 1")]
    let cleared : List Step :=
      [.call (.execute "DELETE 1"), .act 0 .clear, .call (.execute "DELETE 2")]
    first.log = some 0 ∧ settings.capacity = 100 ∧
      (first.after t clock shared).stats.map Entry.sql = ["DELETE 1", "DELETE 1"] ∧
      (first.after t clock cleared).stats.map Entry.sql = ["DELETE 2"] ∧
      ∀ steps ∈ [shared, cleared], (first.after t clock steps).stats
        ≠ ((t.executions clock () (steps.filterMap Step.call?)).map Execution.entry).rtake
          settings.capacity := by
  intro t clock settings first shared cleared
  refine ⟨rfl, rfl, by decide, by decide, fun steps hsteps => ?_⟩
  simp only [List.mem_cons, List.not_mem_nil, or_false] at hsteps
  rcases hsteps with rfl | rfl <;> decide

end Watched

end SearchSql
