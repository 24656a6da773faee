/-
SearchSql.Proofs.FreshBuilders — a builder starts over with every statement.

A builder is used for one statement after the other. What it holds after a run
comes from the uses behind the last one that ended a statement (`recent`,
`Builder.run_recent`): a successful compilation, alone or as the first part of
executing or fetching, or a reset. Its rows are the ones that these uses gave
(`Builder.rows_run`). Nothing else of the run is left, so from there on it answers
like a builder that was never used (`Builder.answers_after_end`).
-/
import SearchSql.Proofs.BuilderRuns

namespace SearchSql

/-! ## 1. The paging of a builder -/

namespace Builder

theorem defaults_make (b : Builder) (change : Change) :
    (b.make change).defaults = b.defaults := by
  cases change <;> rfl

/-- A cleared builder is one with nothing declared. -/
theorem reset_eq (b : Builder) : b.reset = ofPaging b.defaults := rfl

end Builder

/-- No use changes the paging that a builder was made with. -/
theorem Use.defaults_apply (b : Builder) (u : Use) : (u.apply b).defaults = b.defaults := by
  rw [apply_eq]
  split
  · rfl
  · split
    · exact b.defaults_make _
    · rfl

/-- A use that ends a statement leaves nothing declared. -/
theorem Use.apply_of_ends {b : Builder} {u : Use} (h : u.ends b = true) :
    u.apply b = .ofPaging b.defaults := by
  rw [apply_eq, if_pos h, Builder.reset_eq]

/-! ## 2. The uses behind the last end -/

/-- The uses of a run behind the last one that ended a statement, where the run
goes on from a builder and from uses before it. -/
def recentAfter (b : Builder) (earlier : List Use) : List Use → List Use
  | [] => earlier
  | u :: us => recentAfter (u.apply b) (if u.ends b then [] else earlier ++ [u]) us

/-- The uses of a run behind the last one that ended a statement. -/
def recent (p : Paging) (us : List Use) : List Use :=
  recentAfter (.ofPaging p) [] us

theorem recentAfter_append (b : Builder) (earlier us vs : List Use) :
    recentAfter b earlier (us ++ vs) = recentAfter (b.run us) (recentAfter b earlier us) vs := by
  induction us generalizing b earlier with
  | nil => rfl
  | cons u us ih => exact ih _ _

theorem recent_concat (p : Paging) (us : List Use) (u : Use) :
    recent p (us ++ [u])
      = if u.ends ((Builder.ofPaging p).run us) then [] else recent p us ++ [u] :=
  recentAfter_append ..

/-- A property of a builder and its recent uses holds after every run if it
holds at first and each use keeps it. -/
theorem recent_induction {motive : Builder → List Use → Prop} {p : Paging}
    (start : motive (.ofPaging p) [])
    (step : ∀ b us u, b.defaults = p → motive b us →
      motive (u.apply b) (if u.ends b then [] else us ++ [u]))
    (us : List Use) : motive ((Builder.ofPaging p).run us) (recent p us) := by
  have hrun : ∀ (us : List Use) (b : Builder) (earlier : List Use), b.defaults = p →
      motive b earlier → motive (b.run us) (recentAfter b earlier us) := by
    intro us
    induction us with
    | nil => exact fun b earlier _ h => h
    | cons u us ih =>
      intro b earlier hp h
      exact ih _ _ ((u.defaults_apply b).trans hp) (step b earlier u hp h)
  exact hrun us _ _ rfl start

namespace Builder

/-- What a builder holds comes from its recent uses alone. -/
theorem run_recent (p : Paging) (us : List Use) :
    (ofPaging p).run us = (ofPaging p).run (recent p us) := by
  refine recent_induction (motive := fun b us => b = (ofPaging p).run us) rfl ?_ us
  intro b us u hp hb
  split
  · next hends => rw [Use.apply_of_ends hends, hp, run_nil]
  · rw [run_append, run_singleton, ← hb]

end Builder

/-! ## 3. Rows in the making -/

/-- The row that a use adds. An empty row is refused. -/
def Use.row? : Use → Option (List Value)
  | .declare (.values row) => if row = [] then none else some row
  | _ => none

/-- The row that a change adds. -/
def Change.row? : Change → Option (List Value)
  | .row values => some values
  | _ => none

theorem Builder.rows_make (b : Builder) (change : Change) :
    (b.make change).rows = b.rows ++ change.row?.toList := by
  cases change <;> simp [make, Change.row?]

theorem Use.row?_eq (u : Use) : u.row? = u.change?.bind Change.row? := by
  cases hchange : u.change? with
  | some change =>
    obtain ⟨c, rfl, hc⟩ := change?_eq_some_iff.1 hchange
    have h := Call.change_of_check hc
    cases c with
    | values row =>
      obtain ⟨hne, rfl⟩ := h
      simp [row?, Change.row?, hne]
    | limit | maxMatches | pairs =>
      cases hc
      rfl
    | _ =>
      obtain ⟨a, rfl⟩ := h
      rfl
  | none =>
    unfold row?
    split
    · next row =>
      -- The check of a row refuses only the empty one.
      by_cases hrow : row = []
      · rw [if_pos hrow, Option.bind_none]
      · simp [change?, Call.check, hrow, Except.toOption] at hchange
    · rfl

/-- A use adds its row, or it ends the statement and nothing is left. -/
theorem Use.rows_apply (b : Builder) (u : Use) :
    (u.apply b).rows = if u.ends b then [] else b.rows ++ u.row?.toList := by
  rw [apply_eq, row?_eq]
  split
  · rfl
  · cases u.change? with
    | some change => exact b.rows_make change
    | none => exact (List.append_nil _).symm

/-- The rows of a builder are those of its recent uses, in order. -/
theorem Builder.rows_run (p : Paging) (us : List Use) :
    ((ofPaging p).run us).rows = (recent p us).filterMap Use.row? := by
  refine recent_induction (motive := fun b us => b.rows = us.filterMap Use.row?) rfl ?_ us
  intro b us u _ hb
  rw [Use.rows_apply]
  split
  · rfl
  · rw [hb, List.filterMap_append]
    cases hu : u.row? <;> simp [hu]

/-! ## 4. Answers -/

/-- What a use answers. -/
inductive Answer : Type 1
  | declared (result : Except Error Unit)
  | compiled (result : Except Error Statement) (events : List Event)
  | executed {σ : Type} (exchange : Exchange Error σ Output)
  | fetched {σ α : Type} (exchange : Exchange Error σ (List α))
  | reset

/-- The answer of a builder to a use. -/
def Use.answer (b : Builder) : Use → Answer
  | .declare c => .declared (b.call c).1
  | .compile => .compiled b.compile.result b.compile.events
  | .execute t state => .executed (b.execute t state).1
  | .fetch r t state => .fetched (b.fetch r.read t state).1
  | .reset => .reset

namespace Builder

/-- The answers of a builder to uses one after the other. -/
def answers (b : Builder) : List Use → List Answer
  | [] => []
  | u :: us => u.answer b :: (u.apply b).answers us

/-- **Nothing is left of a statement that ended.** Behind a successful
compilation, whatever came of sending it, and behind a reset, a builder is as it
was made, and from there on it answers as one that was never used. -/
theorem answers_after_end (p : Paging) (us : List Use) (u : Use)
    (h : u.ends ((ofPaging p).run us) = true) :
    (ofPaging p).run (us ++ [u]) = ofPaging p ∧
      ∀ vs, ((ofPaging p).run (us ++ [u])).answers vs = (ofPaging p).answers vs := by
  have hfresh : (ofPaging p).run (us ++ [u]) = ofPaging p := by
    rw [run_recent, recent_concat, if_pos h, run_nil]
  exact ⟨hfresh, fun vs => by rw [hfresh]⟩

/-- An INSERT with a filter that it ignores, sent by a transport that fails. -/
theorem answers_after_end_of_failure :
    let t : Transport Unit :=
      ⟨fun _ state => ⟨.ok [], [], state⟩, fun _ state => ⟨.error ⟨"gone away"⟩, [], state⟩⟩
    let us : List Use := [.declare (.insertInto "products" (.columns ["id"])),
      .declare (.filter "price" .gt (.scalar (.int 10))), .declare (.limit 5 6),
      .declare (.values [.int 1])]
    let u : Use := .execute t ()
    let p : Paging := ⟨0, 50, 500⟩
    u.ends ((ofPaging p).run us) = true ∧ (ofPaging p).run (us ++ [u]) = ofPaging p ∧
      ∀ vs, ((ofPaging p).run (us ++ [u])).answers vs = (ofPaging p).answers vs := by
  intro t us u p
  have hends : u.ends ((ofPaging p).run us) = true := by
    change ((ofPaging p).run us).compile.result.isOk = true
    decide +kernel
  exact ⟨hends, answers_after_end p us u hends⟩

end Builder

end SearchSql
