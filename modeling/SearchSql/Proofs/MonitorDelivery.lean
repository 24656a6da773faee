/-
SearchSql.Proofs.MonitorDelivery — which monitors hear what, and in which order.

At every point of a run the leaves of a transport's monitor are those that were
set and added, in this order. A call that comes then is a list of deliveries to
them. First each gets the start of the statement, then the call is made, then
each gets its outcome, and then each that it was slow, if it was.

* `Watched.leaves_after` — the leaves after any run.
* `Watched.signals_reach_every_leaf` — the deliveries of each call of a run, and what
  is observed and recorded of them.
-/
import SearchSql.Proofs.WatchedRuns

namespace SearchSql.Watched

open SearchSql.Text

/-! ## 1. Leaves in a run -/

/-- The leaves after a step: a monitor that is set takes the place of those before, one
that is added stands behind them. -/
def Step.leavesAfter (ls : List Leaf) : Step → List Leaf
  | .adjust (.monitor m) => m.leaves
  | .adjust (.addMonitor m) => ls ++ m.leaves
  | .call _ | .adjust (.tag _) | .adjust (.enabled _) | .adjust (.slowThreshold _) | .newLog _
  | .act _ _ => ls

variable (t : Transport σ) (clock : σ → Instant)

theorem leaves_step (w : Watched σ) (s : Step) :
    (w.step t clock s).monitor.leaves = s.leavesAfter w.monitor.leaves := by
  cases s with
  | call c =>
    rw [step, send_transport]
    rfl
  | adjust a =>
    cases a with
    | addMonitor m => exact w.leaves_addMonitor m
    | tag | monitor | enabled | slowThreshold => rfl
  | newLog | act => rfl

/-- The leaves after any run. -/
theorem leaves_after (w : Watched σ) (steps : List Step) :
    (w.after t clock steps).monitor.leaves = steps.foldl Step.leavesAfter w.monitor.leaves := by
  induction steps generalizing w with
  | nil => rfl
  | cons s steps ih =>
    rw [List.foldl_cons, ← leaves_step t clock w s]
    exact ih _

/-! ## 2. Calls -/

/-- The deliveries before a call. -/
theorem deliveries_opening (w : Watched σ) (x : Execution) :
    w.monitor.deliveries (w.opening x)
      = if w.settings.enabled then w.monitor.leaves.map (⟨·, .start (x.context w.tag)⟩) else [] := by
  unfold opening Monitor.deliveries
  split
  · rw [List.flatMap_singleton]
  · rfl

/-- The deliveries after a call. -/
theorem deliveries_ending (w : Watched σ) (x : Execution) :
    w.monitor.deliveries (w.ending x)
      = if w.settings.enabled then
          w.monitor.leaves.map (⟨·, .complete (x.context w.tag) x.elapsed x.outcome⟩)
            ++ (if ∃ d ∈ w.settings.slowThreshold, d.nanos < x.elapsed.nanos then
              w.monitor.leaves.map (⟨·, .slow (x.context w.tag) x.elapsed⟩)
            else [])
        else [] := by
  unfold ending Monitor.deliveries
  split
  · rw [List.flatMap_cons]
    split
    · rw [List.flatMap_singleton]
    · rfl
  · rfl

/-- A call in terms of deliveries. -/
theorem send_eq_deliver (w : Watched σ) (c : Sent) :
    let x := t.execution clock w.inner c
    let before := deliver w.logs (w.monitor.deliveries (w.opening x))
    let behind := deliver (w.recordIn x before.1) (w.monitor.deliveries (w.ending x))
    (transport t clock).send w c =
      ⟨x.result, before.2 ++ (t.send w.inner c).events ++ noticed c.sql x.result ++ behind.2,
        { w with inner := (t.send w.inner c).state, logs := behind.1 }⟩ := by
  intro x before behind
  have hsend := send_transport t clock w c
  simp only [Monitor.hearAll_eq] at hsend
  exact hsend

/-- **The signals of each call of a run reach every leaf.** At every point of every run
the leaves of the monitor are those set and added, in this order; and a monitor was put
together with some leaves in some order exactly if these are its leaves. A call that
comes then, if monitors are to be told, delivers to each leaf, once and from left to
right, the start of the statement, then its outcome, then, if there is a threshold and
it took longer, that it was slow; otherwise it delivers nothing. A delivery to an
observer is observed as this one signal, and one to a log is heard by the log. Nothing
else is observed but what the transport inside shows and the notice of its failure, and
nothing else becomes of the logs but that the transport records the call in its own. -/
theorem signals_reach_every_leaf (w : Watched σ) (steps : List Step) (c : Sent) :
    let last := w.after t clock steps
    let leaves := steps.foldl Step.leavesAfter w.monitor.leaves
    let x := t.execution clock last.inner c
    let under := x.context last.tag
    let before : List Delivery :=
      if last.settings.enabled then leaves.map (⟨·, .start under⟩) else []
    let behind : List Delivery :=
      if last.settings.enabled then
        leaves.map (⟨·, .complete under x.elapsed x.outcome⟩)
          ++ (if ∃ d ∈ last.settings.slowThreshold, d.nanos < x.elapsed.nanos then
            leaves.map (⟨·, .slow under x.elapsed⟩) else [])
      else []
    let reply := (transport t clock).send last c
    last.monitor.leaves = leaves ∧
      (∀ m, (last.addMonitor m).monitor.leaves = leaves ++ m.leaves) ∧
      (∀ (m : Monitor) (ls : List Leaf), m.Built ls ↔ m.leaves = ls) ∧
      reply.events = before.flatMap Delivery.events ++ (t.send last.inner c).events
        ++ noticed c.sql reply.result ++ behind.flatMap Delivery.events ∧
      reply.state.logs
        = behind.foldl Delivery.logs (last.recordIn x (before.foldl Delivery.logs last.logs)) ∧
      (∀ name s, (Delivery.mk (.observer name) s).events = [.signal name s]) ∧
      (∀ place s logs,
        (Delivery.mk (.recorder place) s).logs logs = logs.modify place (·.hear s)) ∧
      x.outcome = (match reply.result with
        | .ok (.rows rs) => .rows rs.length
        | .ok (.count n) => .affected n
        | .error f => .failed (abridge 512 f.message)) := by
  intro last leaves x under before behind reply
  have hleaves : last.monitor.leaves = leaves := leaves_after t clock w steps
  have hbefore := deliveries_opening last x
  have hbehind := deliveries_ending last x
  rw [hleaves] at hbefore hbehind
  have hsend := send_eq_deliver t clock last c
  have hresult : reply.result = x.result := by
    simp only [reply, hsend]
    rfl
  refine ⟨hleaves, fun m => ?_, fun m ls => Monitor.built_iff, ?_, ?_, fun name s => rfl,
    fun place s logs => rfl, ?_⟩
  · rw [leaves_addMonitor, hleaves]
  · rw [hresult]
    simp only [reply, hsend]
    rw [hbefore, hbehind]
    rfl
  · simp only [reply, hsend]
    rw [hbefore, hbehind]
    rfl
  · rw [hresult, Execution.outcome]
    rcases x.result with f | ⟨rs | n⟩ <;> rfl

/-- A tree of two groups with one more observer behind it, and a call that fails and is
slow. One of the observers occurs twice. -/
theorem signals_reach_every_leaf_of_nested :
    let t : Transport Nat := ⟨fun _ n => ⟨.ok [], [], n + 1⟩,
      fun _ n => ⟨.error ⟨"absent"⟩, [], n + 1⟩⟩
    let a : Monitor := .leaf (.observer "a")
    let b : Monitor := .leaf (.observer "b")
    let members := (Group.empty.withShared (.leaf (.recorder 0))).withOwned b
    let tree := (Group.ofList [a, members.monitor]).monitor
    let steps : List Step := [.newLog 5, .adjust (.monitor tree), .adjust (.enabled true),
      .adjust (.slowThreshold ⟨0⟩), .adjust (.addMonitor a)]
    let reply := (transport t fun n => ⟨n⟩).send ((ofInner 7).after t (fun n => ⟨n⟩) steps)
      (.execute "DELETE")
    let under : Context := ⟨"DELETE", some .delete, ⟨7⟩, none⟩
    tree.Built [.observer "a", .recorder 0, .observer "b"] ∧
      reply.events =
        [.signal "a" (.start under), .signal "b" (.start under), .signal "a" (.start under),
          .notice (.transportFailure "absent" "DELETE"),
          .signal "a" (.complete under ⟨1⟩ (.failed "absent")),
          .signal "b" (.complete under ⟨1⟩ (.failed "absent")),
          .signal "a" (.complete under ⟨1⟩ (.failed "absent")),
          .signal "a" (.slow under ⟨1⟩), .signal "b" (.slow under ⟨1⟩),
          .signal "a" (.slow under ⟨1⟩)] ∧
      reply.state.logs = [⟨5, [⟨"DELETE", ⟨7⟩, ⟨1⟩, some "absent"⟩]⟩] := by
  intro t a b members tree steps reply under
  obtain ⟨-, -, hbuilt, hevents, hlogs, -⟩ :=
    signals_reach_every_leaf t (fun n => ⟨n⟩) (ofInner 7) steps (.execute "DELETE")
  refine ⟨(hbuilt _ _).2 (by decide), hevents.trans (by decide), hlogs.trans (by decide)⟩

end SearchSql.Watched
