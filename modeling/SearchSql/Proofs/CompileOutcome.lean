/-
SearchSql.Proofs.CompileOutcome — how compiling comes out, after any run.

The checks of a draft come in a fixed order, and after a run most of them
cannot fail: a started statement has an index and the fields of its kind. What
is left depends on three things only: whether a statement is in the making,
whether there is a predicate, and how long the rows are.

`Builder.InProgress` says by the history of the builder when a statement is in
the making: a start succeeded, and no reset and no successful compile came
after it. The rows are told by the history too, they are the ones given since the
last statement ended (`Builder.rows_run`).
-/
import Mathlib.Data.List.Basic
import Mathlib.Data.List.Induction
import SearchSql.Proofs.FreshBuilders

namespace SearchSql

/-! ## 1. Statements in the making -/

/-- The calls that start a statement. -/
def Call.isStart : Call → Bool
  | .selectFrom .. | .insertInto .. | .replaceInto .. | .deleteFrom .. => true
  | _ => false

/-- Whether a use is a call that starts a statement and succeeds. -/
def Use.starts (b : Builder) : Use → Bool
  | .declare c => c.isStart && (b.call c).1.isOk
  | _ => false

/-- A start that succeeded, with no reset and no successful compile after
it. -/
def Builder.InProgress (b : Builder) (us : List Use) : Prop :=
  ∃ earlier start later, us = earlier ++ start :: later ∧
    start.starts (b.run earlier) = true ∧
    ∀ between u rest, later = between ++ u :: rest →
      u.ends (b.run (earlier ++ start :: between)) = false

/-- The change of a start is a target, and no other call has such a change. -/
theorem Call.isSome_target_make {c : Call} {change : Change} (h : c.check = .ok change)
    (b : Builder) : (b.make change).target.isSome = (c.isStart || b.target.isSome) := by
  have hchange := change_of_check h
  cases c with
  | selectFrom | insertInto | replaceInto | deleteFrom =>
    obtain ⟨t, rfl⟩ := hchange
    rfl
  | filter | between | oneOf | search | searchAll =>
    obtain ⟨p, rfl⟩ := hchange
    rfl
  | groupBy | orderBy =>
    obtain ⟨column, rfl⟩ := hchange
    rfl
  | limit | maxMatches | pairs =>
    cases h
    rfl
  | values row =>
    obtain ⟨-, rfl⟩ := hchange
    rfl

theorem Use.starts_of_change?_eq_none {u : Use} (h : u.change? = none) (b : Builder) :
    u.starts b = false := by
  cases u with
  | declare c =>
    cases hc : c.check with
    | error e => simp [starts, Builder.call_of_check_error hc, Except.isOk, Except.toBool]
    | ok change => simp [change?, hc, Except.toOption] at h
  | _ => rfl

/-- One use: a statement is in the making afterwards if the use starts one, or
if one was and the use does not end it. -/
theorem Use.isSome_target_apply (b : Builder) (u : Use) :
    (u.apply b).target.isSome = (u.starts b || (b.target.isSome && !u.ends b)) := by
  rw [apply_eq]
  cases hchange : u.change? with
  | some change =>
    obtain ⟨c, rfl, hc⟩ := change?_eq_some_iff.1 hchange
    simp [starts, ends, Call.isSome_target_make hc, Builder.call_of_check_ok hc, Except.isOk,
      Except.toBool]
  | none =>
    rw [starts_of_change?_eq_none hchange]
    cases u.ends b <;> simp [Builder.reset]

namespace Builder

/-- The last use of a run settles whether a statement is in the making, except
where it neither starts nor ends one. -/
theorem inProgress_concat (b : Builder) (us : List Use) (u : Use) :
    b.InProgress (us ++ [u]) ↔
      u.starts (b.run us) = true ∨ b.InProgress us ∧ u.ends (b.run us) = false := by
  constructor
  · rintro ⟨earlier, start, later, hus, hstart, hlater⟩
    rcases List.eq_nil_or_concat' later with rfl | ⟨init, last, rfl⟩
    · obtain ⟨rfl, hu⟩ := List.append_inj' hus rfl
      cases hu
      exact .inl hstart
    · rw [← List.cons_append, ← List.append_assoc] at hus
      obtain ⟨rfl, hu⟩ := List.append_inj' hus rfl
      cases hu
      refine .inr ⟨⟨earlier, start, init, rfl, hstart, ?_⟩, hlater init u [] rfl⟩
      rintro between v rest rfl
      exact hlater between v (rest ++ [u]) (by simp)
  · rintro (hstart | ⟨⟨earlier, start, later, rfl, hstart, hlater⟩, hends⟩)
    · exact ⟨us, u, [], rfl, hstart, by simp⟩
    · refine ⟨earlier, start, later ++ [u], by simp, hstart, fun between v rest h => ?_⟩
      rcases List.eq_nil_or_concat' rest with rfl | ⟨init, last, rfl⟩
      · obtain ⟨rfl, hv⟩ := List.append_inj' h rfl
        cases hv
        exact hends
      · rw [← List.cons_append, ← List.append_assoc] at h
        obtain ⟨h, -⟩ := List.append_inj' h rfl
        exact hlater between v init h

/-- After a run from a builder with nothing declared, the target is set exactly
when a statement is in the making. -/
theorem isSome_target_run (p : Paging) (us : List Use) :
    ((ofPaging p).run us).target.isSome = true ↔ (ofPaging p).InProgress us := by
  induction us using List.reverseRecOn with
  | nil => simp [ofPaging, InProgress]
  | append_singleton us u ih =>
    rw [run_append, run_singleton, Use.isSome_target_apply, inProgress_concat, ← ih]
    simp

/-! ## 2. Drafts -/

/-- The first row whose length is not that of the list of columns. -/
def FirstMisfit (b : Builder) (t : Target) (row : List Value) : Prop :=
  ∃ fitting rest, b.rows = fitting ++ row :: rest ∧
    (∀ other ∈ fitting, other.length = t.fields.arity) ∧ row.length ≠ t.fields.arity

theorem find?_misfit_eq_some_iff (b : Builder) (t : Target) (row : List Value) :
    (b.rows.find? fun row => row.length != t.fields.arity) = some row ↔ b.FirstMisfit t row := by
  rw [List.find?_eq_some_iff_append, FirstMisfit]
  constructor
  · rintro ⟨hrow, fitting, rest, hrows, hfitting⟩
    exact ⟨fitting, rest, hrows, fun other hother => by simpa using hfitting other hother,
      by simpa using hrow⟩
  · rintro ⟨fitting, rest, hrows, hfitting, hrow⟩
    exact ⟨by simpa using hrow, fitting, rest, hrows, fun other hother => by
      simpa using hfitting other hother⟩

variable {b : Builder} {t : Target}

theorem draft_of_target (ht : b.target = some t) : b.draft = b.draftFor t := by
  rw [draft, ht]

theorem isEmpty_index (hb : b.WellFormed) (ht : b.target = some t) : t.index.isEmpty = false := by
  simpa using (hb.target t ht).index.ne_empty

theorem isEmpty_render (hb : b.WellFormed) :
    b.condition.render.isEmpty = decide (b.condition.predicates = []) := by
  rw [Bool.eq_iff_iff, String.isEmpty_iff, Condition.render_eq_empty_iff hb.render_ne_empty,
    decide_eq_true_iff]

/-- The draft of a SELECT needs a predicate, and nothing else. -/
theorem draft_select (hb : b.WellFormed) (ht : b.target = some t) (hk : t.kind = .select) :
    b.draft =
      if b.condition.predicates = [] then .error (.emptyPredicates .select t.index)
      else .ok ⟨.select, t.index, b.selectText t, Shape.ofFields b.options.pairs t.fields⟩ := by
  have hfields := (hb.target t ht).fields
  rw [hk] at hfields
  rw [draft_of_target ht, draftFor, if_neg (by simp [isEmpty_index hb ht])]
  simp only [hk, needFields, hfields, needCondition, isEmpty_render hb, decide_eq_true_eq,
    Bool.false_eq_true, if_false]
  split <;> rfl

/-- The draft of a DELETE needs a predicate, and nothing else. -/
theorem draft_delete (hb : b.WellFormed) (ht : b.target = some t) (hk : t.kind = .delete) :
    b.draft =
      if b.condition.predicates = [] then .error (.emptyPredicates .delete t.index)
      else .ok ⟨.delete, t.index, b.deleteText t, .affected⟩ := by
  rw [draft_of_target ht, draftFor, if_neg (by simp [isEmpty_index hb ht])]
  simp only [hk, needCondition, isEmpty_render hb, decide_eq_true_eq]
  split <;> rfl

/-- The draft of a statement that writes needs rows, each as long as the list
of columns. -/
theorem draft_write (hb : b.WellFormed) (ht : b.target = some t)
    (hk : t.kind = .insert ∨ t.kind = .replace) :
    b.draft =
      if b.rows = [] then
        .error (.emptyValues (t.kind.keyword ++ " into '" ++ t.index ++ "' has no values"))
      else
        match b.rows.find? fun row => row.length != t.fields.arity with
        | some row => .error (.arityMismatch t.fields.arity t.fields.render row.length)
        | none => .ok ⟨t.kind, t.index, b.writeText t, .affected⟩ := by
  have hempty : t.fields.isEmpty = false := by
    obtain ⟨names, hnames, hne, hclean⟩ := (hb.target t ht).columns hk
    simp only [hnames, Fields.isEmpty, Bool.or_eq_false_iff, List.any_eq_false]
    exact ⟨by simpa using hne, fun name hname => by
      simp [(hclean name hname).isBlankText_eq_false]⟩
  rw [draft_of_target ht, draftFor, if_neg (by simp [isEmpty_index hb ht])]
  rcases hk with hk | hk
  all_goals
    simp only [hk, needFields, hempty, needRows, needArity, List.isEmpty_iff, Bool.false_eq_true,
      if_false]
    split
    · rfl
    · cases b.rows.find? fun row => row.length != t.fields.arity <;> rfl

/-- What a draft that comes to a statement had, and which statement it is. -/
theorem draft_ok_cases (hb : b.WellFormed) {s : Statement} (h : b.draft = .ok s) :
    ∃ t, b.target = some t ∧
      ((t.kind = .select ∧ b.condition.predicates ≠ [] ∧
          s = ⟨.select, t.index, b.selectText t, Shape.ofFields b.options.pairs t.fields⟩) ∨
        (t.kind = .delete ∧ b.condition.predicates ≠ [] ∧
          s = ⟨.delete, t.index, b.deleteText t, .affected⟩) ∨
        ((t.kind = .insert ∨ t.kind = .replace) ∧
          (b.rows ≠ [] ∧ ∀ row ∈ b.rows, row.length = t.fields.arity) ∧
          s = ⟨t.kind, t.index, b.writeText t, .affected⟩)) := by
  cases ht : b.target with
  | none =>
    rw [draft, ht] at h
    cases h
  | some t =>
    refine ⟨t, rfl, ?_⟩
    cases hk : t.kind with
    | select =>
      rw [draft_select hb ht hk] at h
      split at h
      · cases h
      · next hne =>
        cases h
        exact .inl ⟨rfl, hne, rfl⟩
    | delete =>
      rw [draft_delete hb ht hk] at h
      split at h
      · cases h
      · next hne =>
        cases h
        exact .inr (.inl ⟨rfl, hne, rfl⟩)
    | insert | replace =>
      rw [draft_write hb ht (by simp [hk]), hk] at h
      split at h
      · cases h
      · next hne =>
        split at h
        · cases h
        · next hfind =>
          cases h
          refine .inr (.inr ⟨by simp, ⟨hne, ?_⟩, rfl⟩)
          simpa using hfind

/-! ## 3. Outcomes -/

/-- How compiling comes out for a statement that was started: a SELECT or
DELETE needs a predicate, a statement that writes needs rows, and the first
row of another length than the list of columns is refused. -/
def Outcome (b : Builder) (t : Target) : Prop :=
  match t.kind with
  | .select | .delete =>
    (b.compile.result = .error (.emptyPredicates t.kind t.index) ↔ b.condition.predicates = []) ∧
    ((∃ s, b.compile.result = .ok s) ↔ b.condition.predicates ≠ [])
  | .insert | .replace =>
    (b.compile.result
        = .error (.emptyValues (t.kind.keyword ++ " into '" ++ t.index ++ "' has no values")) ↔
      b.rows = []) ∧
    (∀ columns columnList values,
      b.compile.result = .error (.arityMismatch columns columnList values) ↔
        ∃ row, b.FirstMisfit t row ∧ columns = t.fields.arity ∧ columnList = t.fields.render ∧
          values = row.length) ∧
    ((∃ s, b.compile.result = .ok s) ↔
      b.rows ≠ [] ∧ ∀ row ∈ b.rows, row.length = t.fields.arity)

theorem outcome_of_needsCondition (ht : t.kind = .select ∨ t.kind = .delete) {s : Statement}
    (h : b.draft = if b.condition.predicates = [] then .error (.emptyPredicates t.kind t.index)
      else .ok s) : b.Outcome t := by
  have hgoal : (b.draft = .error (.emptyPredicates t.kind t.index) ↔
        b.condition.predicates = []) ∧
      ((∃ s, b.draft = .ok s) ↔ b.condition.predicates ≠ []) := by
    by_cases hp : b.condition.predicates = [] <;> simp [h, hp]
  unfold Outcome
  rcases ht with ht | ht <;> simpa only [ht, result_compile] using hgoal

theorem outcome_write (hb : b.WellFormed) (ht : b.target = some t)
    (hk : t.kind = .insert ∨ t.kind = .replace) : b.Outcome t := by
  have hdraft := draft_write hb ht hk
  have hgoal : (b.draft
        = .error (.emptyValues (t.kind.keyword ++ " into '" ++ t.index ++ "' has no values")) ↔
        b.rows = []) ∧
      (∀ columns columnList values,
        b.draft = .error (.arityMismatch columns columnList values) ↔
          ∃ row, b.FirstMisfit t row ∧ columns = t.fields.arity ∧
            columnList = t.fields.render ∧ values = row.length) ∧
      ((∃ s, b.draft = .ok s) ↔
        b.rows ≠ [] ∧ ∀ row ∈ b.rows, row.length = t.fields.arity) := by
    by_cases hrows : b.rows = []
    · simp [hdraft, hrows, FirstMisfit]
    · rw [if_neg hrows] at hdraft
      simp only [← find?_misfit_eq_some_iff]
      cases hfind : b.rows.find? fun row => row.length != t.fields.arity with
      | some row =>
        rw [hfind] at hdraft
        have hrow : ∃ row ∈ b.rows, row.length ≠ t.fields.arity :=
          ⟨row, List.mem_of_find?_eq_some hfind, by simpa using List.find?_some hfind⟩
        simp only [hdraft, hrows]
        refine ⟨by simp, fun columns columnList values => ?_, by simpa using fun _ => hrow⟩
        simp [eq_comm]
      | none =>
        rw [hfind] at hdraft
        simpa [hdraft, hrows] using hfind
  unfold Outcome
  rcases hk with hk | hk <;> simpa only [hk, result_compile] using hgoal

theorem outcome_of_target (hb : b.WellFormed) (ht : b.target = some t) : b.Outcome t := by
  cases hk : t.kind with
  | select => exact outcome_of_needsCondition (.inl hk) (by rw [draft_select hb ht hk, hk])
  | insert => exact outcome_write hb ht (.inl hk)
  | replace => exact outcome_write hb ht (.inr hk)
  | delete => exact outcome_of_needsCondition (.inr hk) (by rw [draft_delete hb ht hk, hk])

/-- The errors of a draft after a run; only the first of them can come without
a statement in the making, and it comes only so. -/
theorem draft_error_cases (hb : b.WellFormed) {e : Error} (h : b.draft = .error e) :
    (b.target = none ∧ e = .noStatement) ∨ (∃ kind index, e = .emptyPredicates kind index) ∨
      (∃ what, e = .emptyValues what) ∨
      ∃ columns columnList values, e = .arityMismatch columns columnList values := by
  cases ht : b.target with
  | none =>
    rw [draft, ht] at h
    cases h
    exact .inl ⟨rfl, rfl⟩
  | some t =>
    refine .inr ?_
    cases hk : t.kind with
    | select =>
      rw [draft_select hb ht hk] at h
      split at h <;> cases h
      exact .inl ⟨_, _, rfl⟩
    | delete =>
      rw [draft_delete hb ht hk] at h
      split at h <;> cases h
      exact .inl ⟨_, _, rfl⟩
    | insert | replace =>
      rw [draft_write hb ht (by simp [hk])] at h
      split at h
      · cases h
        exact .inr (.inl ⟨_, rfl⟩)
      · split at h <;> cases h
        exact .inr (.inr ⟨_, _, _, rfl⟩)

/-- The text of a SELECT or DELETE has the whole condition behind `WHERE`, and
the condition is not empty. -/
theorem where_of_draft (hb : b.WellFormed) {s : Statement} (h : b.draft = .ok s)
    (hk : s.kind = .select ∨ s.kind = .delete) :
    b.condition.render ≠ "" ∧
      ∃ head tail, s.sql = head ++ " WHERE " ++ b.condition.render ++ tail := by
  have hrender : b.condition.predicates ≠ [] → b.condition.render ≠ "" :=
    mt (Condition.render_eq_empty_iff hb.render_ne_empty).1
  obtain ⟨t, -, ⟨-, hp, rfl⟩ | ⟨-, hp, rfl⟩ | ⟨htk, -, rfl⟩⟩ := draft_ok_cases hb h
  · refine ⟨hrender hp, "SELECT " ++ t.fields.render ++ ", WEIGHT() AS weight FROM " ++ t.index,
      b.options.renderOrder ++ b.options.renderPaging, ?_⟩
    exact String.append_assoc ..
  · exact ⟨hrender hp, "DELETE FROM " ++ t.index, "", String.append_empty.symm⟩
  · rcases htk with htk | htk <;> simp [htk] at hk

/-- **How compiling comes out after any run.** No statement is in the making
exactly when compiling says so; otherwise the predicates decide on a SELECT or
DELETE, and on a statement that writes the rows that were given since the last
statement ended. An index and fields are never missing, and no SELECT or DELETE is
without a condition. -/
theorem compile_after_run (p : Paging) (us : List Use) :
    let b := (ofPaging p).run us
    (b.compile.result = .error .noStatement ↔ ¬ (ofPaging p).InProgress us) ∧
    ((ofPaging p).InProgress us → ∃ t, b.target = some t ∧ b.Outcome t) ∧
    b.rows = (recent p us).filterMap Use.row? ∧
    b.compile.result ≠ .error .emptyIndex ∧
    (∀ kind, b.compile.result ≠ .error (.emptyFields kind)) ∧
    ∀ s, b.compile.result = .ok s → s.kind = .select ∨ s.kind = .delete →
      b.condition.render ≠ "" ∧
        ∃ head tail, s.sql = head ++ " WHERE " ++ b.condition.render ++ tail := by
  intro b
  have hb : b.WellFormed := (reachable_run p us).wellFormed
  simp only [result_compile, ← isSome_target_run]
  refine ⟨?_, fun hsome => ?_, rows_run p us, fun h => ?_, fun kind h => ?_,
    fun s h hk => where_of_draft hb h hk⟩
  · rw [Option.not_isSome_iff_eq_none]
    constructor
    · intro h
      rcases draft_error_cases hb h with ⟨ht, -⟩ | ⟨_, _, h⟩ | ⟨_, h⟩ | ⟨_, _, _, h⟩
      · exact ht
      all_goals cases h
    · intro ht
      rw [draft, ht]
  · obtain ⟨t, ht⟩ := Option.isSome_iff_exists.1 hsome
    exact ⟨t, ht, outcome_of_target hb ht⟩
  · rcases draft_error_cases hb h with ⟨-, h⟩ | ⟨_, _, h⟩ | ⟨_, h⟩ | ⟨_, _, _, h⟩ <;> cases h
  · rcases draft_error_cases hb h with ⟨-, h⟩ | ⟨_, _, h⟩ | ⟨_, h⟩ | ⟨_, _, _, h⟩ <;> cases h

/-- A SELECT with a filter, one more filter refused before it, compiles. -/
theorem compile_after_run_of_filter :
    let us : List Use := [.declare (.selectFrom "products" (.expression "*")),
      .declare (.filter "" .eq (.scalar .null)), .declare (.filter "price" .gt (.scalar (.int 10)))]
    (ofPaging .standard).InProgress us ∧
      ∃ t s, ((ofPaging .standard).run us).target = some t ∧
        ((ofPaging .standard).run us).Outcome t ∧
        ((ofPaging .standard).run us).compile.result = .ok s := by
  intro us
  have hprogress : (ofPaging .standard).InProgress us := by
    refine ⟨[], _, _, rfl, by decide, fun between u rest h => ?_⟩
    have hu : u ∈ us := by simp [us, h]
    simp only [us, List.mem_cons, List.not_mem_nil, or_false] at hu
    rcases hu with rfl | rfl | rfl <;> rfl
  obtain ⟨-, houtcome, -⟩ := compile_after_run .standard us
  obtain ⟨t, ht, hout⟩ := houtcome hprogress
  have ht' : t = ⟨.select, "products", .expression "*"⟩ :=
    Option.some.inj (ht.symm.trans (by decide))
  subst ht'
  obtain ⟨s, hs⟩ := hout.2.2 (by decide)
  exact ⟨hprogress, _, s, ht, hout, hs⟩

end Builder

end SearchSql
