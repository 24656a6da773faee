/-
SearchSql.Proofs.BuilderRuns — what holds of a builder after any use of it.

A builder is used by calls, by compiling, executing and fetching, and by
resets; transports and readers of rows are arbitrary. A use leaves the builder
as it was, makes the change of one call, or resets it, and nothing else
(`Use.apply_eq`).

`Builder.WellFormed` is the invariant of all runs: a statement that was started
has an index and the fields of its kind, predicates and columns passed their
checks, and no row of values is empty (`Builder.Reachable.wellFormed`).
-/
import SearchSql.Builder.Sending
import SearchSql.Proofs.CallChanges
import SearchSql.Proofs.ConditionText

namespace SearchSql

open SearchSql.Text

/-! ## 1. Uses -/

namespace Record

theorem readField_error {f : RecordField} {v : Value} {e : Error} (h : readField f v = .error e) :
    ∃ what, e = .decode what := by
  rw [readField] at h
  split at h
  · cases h
  · split at h <;> cases h
    exact ⟨_, rfl⟩

theorem readEntries_error {schema : List RecordField} {e : Error} :
    ∀ {entries : List (String × Value)}, readEntries schema entries = .error e →
      ∃ what, e = .decode what
  | (name, v) :: rest, h => by
      rw [readEntries] at h
      split at h
      · rcases bind_eq_error_iff.1 h with h | ⟨value, -, h⟩
        · exact readField_error h
        · rcases bind_eq_error_iff.1 h with h | ⟨values, -, h⟩
          · exact readEntries_error h
          · cases h
      · exact readEntries_error h

theorem complete_error {values : List (String × Value)} {e : Error} :
    ∀ {schema : List RecordField}, complete values schema = .error e → ∃ what, e = .decode what
  | f :: rest, h => by
      rw [complete] at h
      split at h
      · exact complete_error (map_eq_error_iff.1 h)
      · split at h
        · exact complete_error (map_eq_error_iff.1 h)
        · cases h
          exact ⟨_, rfl⟩

/-- A row that is no record of the schema is a decoding error. -/
theorem ofRow_error {schema : List RecordField} {row : Row} {e : Error}
    (h : ofRow schema row = .error e) : ∃ what, e = .decode what := by
  rcases bind_eq_error_iff.1 h with h | ⟨values, -, h⟩
  · exact readEntries_error h
  · exact complete_error h

end Record

/-- A way to read rows into records. A row that cannot be read is a decoding
error. -/
structure Reader (α : Type) where
  read : Row → Except Error α
  decode_of_error : ∀ {row e}, read row = .error e → ∃ what, e = .decode what

/-- Rows read into the fields of a schema. -/
def Reader.ofSchema (schema : List RecordField) : Reader (List (String × Value)) :=
  ⟨Record.ofRow schema, Record.ofRow_error⟩

/-- One use of a builder. -/
inductive Use : Type 1
  | declare (c : Call)
  | compile
  | execute {σ : Type} (t : Transport σ) (state : σ)
  | fetch {σ α : Type} (r : Reader α) (t : Transport σ) (state : σ)
  | reset

namespace Use

/-- The builder after a use. -/
def apply (b : Builder) : Use → Builder
  | .declare c => (b.call c).2
  | .compile => b.compile.builder
  | .execute t state => (b.execute t state).2
  | .fetch r t state => (b.fetch r.read t state).2
  | .reset => b.reset

/-- Whether a use ends the statement in the making: a reset does, and so does
compiling where it succeeds. A fetch does not compile a mutation. -/
def ends (b : Builder) : Use → Bool
  | .declare _ => false
  | .compile | .execute _ _ => b.compile.result.isOk
  | .fetch _ _ _ => b.mutation?.isNone && b.compile.result.isOk
  | .reset => true

theorem apply_declare (b : Builder) (c : Call) :
    (declare c).apply b = match c.check with
      | .ok change => b.make change
      | .error _ => b :=
  b.call_snd c

end Use

namespace Builder

theorem compile_of_draft_ok {b : Builder} {s : Statement} (h : b.draft = .ok s) :
    b.compile = ⟨.ok s, b.notices s, b.reset⟩ := by
  rw [compile, h]

theorem compile_of_draft_error {b : Builder} {e : Error} (h : b.draft = .error e) :
    b.compile = ⟨.error e, [], b⟩ := by
  rw [compile, h]

@[simp] theorem result_compile (b : Builder) : b.compile.result = b.draft := by
  rw [compile]
  cases b.draft <;> rfl

end Builder

/-- A use that is no call resets the builder or leaves it as it is. -/
theorem Use.apply_of_not_declare (b : Builder) (u : Use) (hu : ∀ c, u ≠ .declare c) :
    u.apply b = if u.ends b then b.reset else b := by
  cases u with
  | declare c => exact absurd rfl (hu c)
  | reset => rfl
  | compile =>
    cases h : b.draft <;> simp [apply, ends, Builder.compile, h, Except.isOk, Except.toBool]
  | execute t state =>
    cases h : b.draft <;>
      simp [apply, ends, Builder.execute, Builder.compile, h, Except.isOk, Except.toBool]
  | fetch r t state =>
    cases hm : b.mutation? with
    | some kind => simp [apply, ends, Builder.fetch, hm]
    | none =>
      cases h : b.draft <;>
        simp [apply, ends, Builder.fetch, Builder.compile, hm, h, Except.isOk, Except.toBool]

/-- The change that a use makes: a call that passes its check makes one. -/
def Use.change? : Use → Option Change
  | .declare c => c.check.toOption
  | _ => none

theorem Use.change?_eq_some_iff {u : Use} {change : Change} :
    u.change? = some change ↔ ∃ c, u = .declare c ∧ c.check = .ok change := by
  cases u with
  | declare c => cases hc : c.check <;> simp [change?, hc, Except.toOption]
  | _ => simp [change?]

/-- All that a use can do to a builder. -/
theorem Use.apply_eq (b : Builder) (u : Use) :
    u.apply b = if u.ends b then b.reset else
      match u.change? with
      | some change => b.make change
      | none => b := by
  cases u with
  | declare c =>
    rw [apply_declare]
    cases hc : c.check <;> simp [change?, ends, hc, Except.toOption]
  | _ => exact apply_of_not_declare b _ (by simp)

namespace Builder

/-! ## 2. Runs -/

/-- The builder after uses one after the other. -/
def run (b : Builder) (us : List Use) : Builder :=
  us.foldl Use.apply b

@[simp] theorem run_nil (b : Builder) : b.run [] = b := rfl

@[simp] theorem run_append (b : Builder) (us vs : List Use) :
    b.run (us ++ vs) = (b.run us).run vs := by
  simp [run]

@[simp] theorem run_singleton (b : Builder) (u : Use) : b.run [u] = u.apply b := rfl

/-- A builder that some run of uses leads to. -/
def Reachable (b : Builder) : Prop :=
  ∃ (p : Paging) (us : List Use), b = (ofPaging p).run us

theorem reachable_run (p : Paging) (us : List Use) : ((ofPaging p).run us).Reachable :=
  ⟨p, us, rfl⟩

/-! ## 3. The invariant -/

end Builder

/-- A started statement: it has an index, a SELECT has fields, and a statement
that writes has columns with clean names. -/
structure Target.WellFormed (t : Target) : Prop where
  index : Name.IsIndex t.index
  fields : match t.kind with
    | .select => t.fields.isEmpty = false
    | .insert | .replace =>
      ∃ names, t.fields = .columns names ∧ names ≠ [] ∧ ∀ name ∈ names, Name.IsField name
    | .delete => t.fields = .empty

theorem Target.WellFormed.columns {t : Target} (ht : t.WellFormed)
    (hk : t.kind = .insert ∨ t.kind = .replace) :
    ∃ names, t.fields = .columns names ∧ names ≠ [] ∧ ∀ name ∈ names, Name.IsField name := by
  have hfields := ht.fields
  rcases hk with hk | hk <;> rw [hk] at hfields <;> exact hfields

/-- What the check of a call establishes of its change. -/
def Change.WellFormed : Change → Prop
  | .target t => t.WellFormed
  | .predicate p => p.WellFormed
  | .groupBy column => Name.IsField column
  | .orderBy column _ => Name.IsField column
  | .row values => values ≠ []
  | .limit _ _ | .maxMatches _ | .pairs _ => True

namespace Change

theorem wellFormed_starting {kind : Kind} {index : String} {fields : Fields} {change : Change}
    (h : starting kind index fields = .ok change)
    (hfields : ∀ name, Name.IsIndex name → Target.WellFormed ⟨kind, name, fields⟩) :
    change.WellFormed := by
  obtain ⟨name, hname, rfl⟩ := target_of_starting h
  exact hfields name (Name.isIndex_of_index hname)

theorem wellFormed_writing {kind : Kind} {index : String} {columns : Fields} {change : Change}
    (hkind : kind = .insert ∨ kind = .replace) (h : writing kind index columns = .ok change) :
    change.WellFormed := by
  obtain ⟨hne, names, name, hnames, hname, rfl⟩ := target_of_writing h
  obtain ⟨hlength, hclean⟩ := Name.isField_of_fields hnames
  have hne' : names ≠ [] := by
    rintro rfl
    have : columns.names = [] := List.length_eq_zero_iff.1 hlength.symm
    cases columns <;> simp_all [Fields.names, Fields.isEmpty]
  refine ⟨Name.isIndex_of_index hname, ?_⟩
  rcases hkind with rfl | rfl <;> exact ⟨names, rfl, hne', hclean⟩

/-- A predicate is added as its check lets it through. -/
theorem wellFormed_predicate {checked : Except Error Predicate} {change : Change}
    (hchecked : ∀ p, checked = .ok p → p.WellFormed)
    (h : checked.map .predicate = .ok change) : change.WellFormed := by
  obtain ⟨p, hp, rfl⟩ := map_eq_ok_iff.1 h
  exact hchecked p hp

end Change

theorem Call.wellFormed_of_check {c : Call} {change : Change} (h : c.check = .ok change) :
    change.WellFormed := by
  cases c with
  | selectFrom index fields =>
    rw [check] at h
    split at h
    · cases h
    · next hne =>
      exact Change.wellFormed_starting h fun name hname => ⟨hname, by simpa using hne⟩
  | insertInto index columns => exact Change.wellFormed_writing (.inl rfl) h
  | replaceInto index columns => exact Change.wellFormed_writing (.inr rfl) h
  | deleteFrom index => exact Change.wellFormed_starting h fun name hname => ⟨hname, rfl⟩
  | filter => exact Change.wellFormed_predicate (fun p => Predicate.wellFormed_compare) h
  | between => exact Change.wellFormed_predicate (fun p => Predicate.wellFormed_range) h
  | oneOf => exact Change.wellFormed_predicate (fun p => Predicate.wellFormed_oneOf) h
  | search => exact Change.wellFormed_predicate (fun p => Predicate.wellFormed_search) h
  | searchAll => exact Change.wellFormed_predicate (fun p => Predicate.wellFormed_searchAll) h
  | groupBy | orderBy =>
    obtain ⟨column, hcolumn, rfl⟩ := map_eq_ok_iff.1 h
    exact Name.isField_of_field hcolumn
  | limit offset count => cases h; trivial
  | maxMatches cap => cases h; trivial
  | pairs enabled => cases h; trivial
  | values row =>
    rw [check] at h
    split at h
    · cases h
    · next hne =>
      cases h
      exact fun hnil => hne (by simp [hnil])

namespace Builder

/-- What holds of a builder after every run. -/
structure WellFormed (b : Builder) : Prop where
  target : ∀ t ∈ b.target, t.WellFormed
  predicates : ∀ p ∈ b.condition.predicates, p.WellFormed
  groupBy : ∀ column ∈ b.options.groupBy, Name.IsField column
  orderBy : ∀ order ∈ b.options.orderBy, Name.IsField order.1
  rows : ∀ row ∈ b.rows, row ≠ []

theorem wellFormed_ofPaging (p : Paging) : (ofPaging p).WellFormed := by
  constructor <;> simp [ofPaging, Condition.empty, Options.ofPaging]

theorem WellFormed.make {b : Builder} (hb : b.WellFormed) {change : Change}
    (hc : change.WellFormed) : (b.make change).WellFormed := by
  cases change with
  | target t =>
    refine { hb with target := fun other hother => ?_ }
    cases hother
    exact hc
  | predicate p =>
    refine { hb with predicates := fun q hq => ?_ }
    rcases List.mem_append.1 hq with hq | hq
    · exact hb.predicates q hq
    · rw [List.mem_singleton] at hq
      exact hq ▸ hc
  | groupBy column =>
    refine { hb with groupBy := fun other hother => ?_ }
    cases hother
    exact hc
  | orderBy column direction =>
    refine { hb with orderBy := fun other hother => ?_ }
    cases hother
    exact hc
  | limit offset count => exact { hb with }
  | maxMatches cap => exact { hb with }
  | pairs enabled => exact { hb with }
  | row values =>
    refine { hb with rows := fun row hrow => ?_ }
    rcases List.mem_append.1 hrow with hrow | hrow
    · exact hb.rows row hrow
    · rw [List.mem_singleton] at hrow
      exact hrow ▸ hc

/-- One use keeps the invariant. -/
theorem WellFormed.apply {b : Builder} (hb : b.WellFormed) (u : Use) : (u.apply b).WellFormed := by
  rw [Use.apply_eq]
  split
  · exact wellFormed_ofPaging b.defaults
  · split
    · next change hchange =>
      obtain ⟨c, -, hc⟩ := Use.change?_eq_some_iff.1 hchange
      exact hb.make (c.wellFormed_of_check hc)
    · exact hb

theorem WellFormed.run {b : Builder} (hb : b.WellFormed) (us : List Use) :
    (b.run us).WellFormed := by
  induction us generalizing b with
  | nil => exact hb
  | cons u us ih => exact ih (hb.apply u)

theorem Reachable.wellFormed {b : Builder} (hb : b.Reachable) : b.WellFormed := by
  obtain ⟨p, us, rfl⟩ := hb
  exact (wellFormed_ofPaging p).run us

theorem WellFormed.render_ne_empty {b : Builder} (hb : b.WellFormed) :
    ∀ p ∈ b.condition.predicates, p.render ≠ "" :=
  fun p hp => Predicate.render_ne_empty (hb.predicates p hp)

end Builder

end SearchSql
