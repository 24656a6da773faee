/-
SearchSql.Proofs.MonitorLeaves — a tree of monitors as the row of its leaves.

A signal that is given to a tree goes to each leaf once, from left to right. So
what a tree does with signals is a list of deliveries, one leaf and one signal
each (`Monitor.deliveries`), and what is observed and what becomes of the logs
is that of the deliveries one after the other. However a tree was put together,
its leaves stand in the order in which they were added.

* `Monitor.leaves` — the leaves of a tree, each as often as it occurs.
* `Monitor.hearAll_eq` — hearing signals comes to their deliveries.
* `Monitor.getElem?_hearAll` — what becomes of one log, by how often it is a leaf.
* `Monitor.Built`, `Monitor.built_iff` — the leaves of a tree that was put together.
-/
import Mathlib.Data.List.Flatten
import SearchSql.Execution.Monitor
import SearchSql.Proofs.BoundedLog

namespace SearchSql

/-! ## 1. Leaves -/

namespace Monitor

mutual

/-- The leaves of a monitor, from left to right, each as often as it occurs. -/
def leaves : Monitor → List Leaf
  | .leaf l => [l]
  | .group members => leavesOfEach members

def leavesOfEach : List Monitor → List Leaf
  | [] => []
  | m :: rest => leaves m ++ leavesOfEach rest

end

@[simp] theorem leaves_leaf (l : Leaf) : leaves (.leaf l) = [l] := by
  rw [leaves]

@[simp] theorem leavesOfEach_eq (ms : List Monitor) : leavesOfEach ms = ms.flatMap leaves := by
  induction ms with
  | nil => rfl
  | cons m rest ih => rw [leavesOfEach, ih, List.flatMap_cons]

@[simp] theorem leaves_group (ms : List Monitor) : leaves (.group ms) = ms.flatMap leaves := by
  rw [leaves, leavesOfEach_eq]

end Monitor

/-! ## 2. Deliveries -/

/-- A leaf gets a signal. -/
structure Delivery where
  leaf : Leaf
  signal : Signal
deriving DecidableEq

namespace Delivery

/-- What is observed of a delivery: an observer has the signal, once, and a writer
writes the notice about it, if there is one. -/
def events (d : Delivery) : List Event :=
  match d.leaf with
  | .observer name => [.signal name d.signal]
  | .writer w => (w.notice? d.signal).toList.map .notice
  | .silent | .recorder _ => []

/-- What the logs become by a delivery: a log that is the leaf hears the signal. -/
def logs (before : Logs) (d : Delivery) : Logs :=
  match d.leaf with
  | .recorder place => before.modify place (·.hear d.signal)
  | .silent | .observer _ | .writer _ => before

end Delivery

/-- The logs after deliveries one after the other, and what is observed meanwhile. -/
def deliver (before : Logs) (ds : List Delivery) : Logs × List Event :=
  (ds.foldl Delivery.logs before, ds.flatMap Delivery.events)

theorem deliver_append (before : Logs) (ds more : List Delivery) :
    deliver before (ds ++ more)
      = ((deliver (deliver before ds).1 more).1,
        (deliver before ds).2 ++ (deliver (deliver before ds).1 more).2) := by
  simp [deliver]

theorem Leaf.hear_eq (s : Signal) (logs : Logs) (l : Leaf) :
    l.hear s logs = deliver logs [⟨l, s⟩] := by
  cases l <;> simp [hear, deliver, Delivery.logs, Delivery.events]

namespace Monitor

/-- The deliveries of signals to the leaves of a monitor: all leaves get one signal
before the next one is given. -/
def deliveries (m : Monitor) (ss : List Signal) : List Delivery :=
  ss.flatMap fun s => m.leaves.map (⟨·, s⟩)

mutual

/-- A tree hears a signal by its leaves, one after the other. -/
theorem hear_eq (s : Signal) (logs : Logs) : ∀ m : Monitor,
    m.hear s logs = deliver logs (m.leaves.map (⟨·, s⟩))
  | .leaf l => by
    rw [hear, leaves_leaf, l.hear_eq]
    rfl
  | .group members => by
    rw [hear, leaves_group, hearEach_eq s logs members]

theorem hearEach_eq (s : Signal) (logs : Logs) : ∀ ms : List Monitor,
    hearEach s logs ms = deliver logs ((ms.flatMap leaves).map (⟨·, s⟩))
  | [] => by
    rw [hearEach]
    rfl
  | m :: rest => by
    rw [hearEach, List.flatMap_cons, List.map_append, deliver_append, hear_eq s logs m]
    simp only [hearEach_eq s _ rest]

end

/-- **Hearing signals comes to their deliveries.** -/
theorem hearAll_eq (m : Monitor) (logs : Logs) (ss : List Signal) :
    m.hearAll logs ss = deliver logs (m.deliveries ss) := by
  induction ss generalizing logs with
  | nil => rfl
  | cons s ss ih =>
    rw [hearAll, deliveries, List.flatMap_cons, deliver_append, hear_eq]
    simp only [ih]
    rfl

/-! ## 3. One log -/

/-- How often a log is a leaf of a monitor. -/
def copies (m : Monitor) (place : Nat) : Nat :=
  m.leaves.count (.recorder place)

end Monitor

/-- A signal that goes along leaves is heard by a log as often as it is one of them. -/
theorem getElem?_deliver {place : Nat} {l : Log} (s : Signal) (ls : List Leaf) {logs : Logs}
    (h : logs[place]? = some l) :
    (deliver logs (ls.map (⟨·, s⟩))).1[place]?
      = some (l.run (List.replicate (ls.count (.recorder place)) (.hear s))) := by
  induction ls generalizing logs l with
  | nil => simpa [deliver, Log.run] using h
  | cons leaf ls ih =>
    have hrest : (deliver logs ((leaf :: ls).map (⟨·, s⟩))).1
        = (deliver (Delivery.logs logs ⟨leaf, s⟩) (ls.map (⟨·, s⟩))).1 := rfl
    rw [hrest]
    by_cases hleaf : leaf = .recorder place
    · subst hleaf
      have hhere : (Delivery.logs logs ⟨.recorder place, s⟩)[place]? = some (l.hear s) := by
        simp [Delivery.logs, h]
      rw [ih hhere, List.count_cons_self, List.replicate_succ]
      rfl
    · have hother : (Delivery.logs logs ⟨leaf, s⟩)[place]? = some l := by
        cases leaf with
        | recorder other =>
          have hne : other ≠ place := by
            rintro rfl
            exact hleaf rfl
          simp [Delivery.logs, h, hne]
        | silent | observer | writer => exact h
      rw [ih hother, List.count_cons_of_ne hleaf]

/-- The log at a place hears signals that a monitor hears as often as it is a leaf of
the monitor. -/
theorem Monitor.getElem?_hearAll (m : Monitor) (place : Nat) (ss : List Signal) {l : Log}
    {logs : Logs} (h : logs[place]? = some l) :
    (m.hearAll logs ss).1[place]?
      = some (l.run (ss.flatMap fun s => List.replicate (m.copies place) (.hear s))) := by
  induction ss generalizing logs l with
  | nil => simpa [hearAll, Log.run] using h
  | cons s ss ih =>
    have hone := getElem?_deliver s m.leaves h
    rw [← hear_eq] at hone
    rw [hearAll, List.flatMap_cons, Log.run_append]
    exact ih hone

/-! ## 4. Putting together -/

/-- A monitor was put together, and these are its leaves in the order in which they
were added: a group is begun with nobody or collected from monitors, and any monitor
that was put together may be added to it, in any of three ways. -/
inductive Monitor.Built : Monitor → List Leaf → Prop
  | leaf (l : Leaf) : Built (.leaf l) [l]
  | empty : Built Group.empty.monitor []
  | push {g : Group} {ls : List Leaf} {m : Monitor} {more : List Leaf}
    (hg : Built g.monitor ls) (hm : Built m more) : Built (g.push m).monitor (ls ++ more)
  | withShared {g : Group} {ls : List Leaf} {m : Monitor} {more : List Leaf}
    (hg : Built g.monitor ls) (hm : Built m more) : Built (g.withShared m).monitor (ls ++ more)
  | withOwned {g : Group} {ls : List Leaf} {m : Monitor} {more : List Leaf}
    (hg : Built g.monitor ls) (hm : Built m more) : Built (g.withOwned m).monitor (ls ++ more)
  | collectNone : Built (Group.ofList []).monitor []
  | collect {m : Monitor} {ls : List Leaf} {ms : List Monitor} {more : List Leaf}
    (hm : Built m ls) (hms : Built (Group.ofList ms).monitor more) :
    Built (Group.ofList (m :: ms)).monitor (ls ++ more)

theorem Group.leaves_push (g : Group) (m : Monitor) :
    (g.push m).monitor.leaves = g.monitor.leaves ++ m.leaves := by
  simp [push, monitor]

/-- **Nothing that was added is dropped or moved.** -/
theorem Monitor.Built.leaves_eq {m : Monitor} {ls : List Leaf} (h : m.Built ls) :
    m.leaves = ls := by
  induction h with
  | leaf l => exact leaves_leaf l
  | empty | collectNone => exact leaves_group []
  | push hg hm ihg ihm | withShared hg hm ihg ihm | withOwned hg hm ihg ihm =>
    rw [← ihg, ← ihm]
    exact Group.leaves_push _ _
  | @collect m ls ms more hm hms ihm ihms =>
    rw [← ihm, ← ihms]
    simp [Group.ofList, Group.monitor]

namespace Monitor

mutual

/-- Every tree can be put together. -/
theorem built : ∀ m : Monitor, m.Built m.leaves
  | .leaf l => by
    rw [leaves_leaf]
    exact .leaf l
  | .group members => by
    rw [leaves_group]
    exact built_ofList members

theorem built_ofList : ∀ ms : List Monitor, Built (Group.ofList ms).monitor (ms.flatMap leaves)
  | [] => .collectNone
  | m :: rest => .collect (built m) (built_ofList rest)

end

theorem built_iff {m : Monitor} {ls : List Leaf} : m.Built ls ↔ m.leaves = ls := by
  constructor
  · exact Built.leaves_eq
  · rintro rfl
    exact m.built

end Monitor

end SearchSql
