/-
SearchSql.Proofs.FailedCalls — a use of a builder that is refused changes
nothing.

A call that fails leaves the builder as it was, and so does compiling that
fails. Executing and fetching may also fail after the statement was sent, when
the builder is empty already; such a failure is never a validation error
(`Statement.isValidation_of_run_error`, `Builder.fetch_error_cases`). So an
error of validation tells that the builder is what it was.
-/
import Mathlib.Control.Monad.Basic
import SearchSql.Proofs.BuilderRuns

namespace SearchSql

/-! ## 1. Errors after sending -/

namespace Output

theorem takeColumn_error {row : Row} {name : String} {e : Error}
    (h : takeColumn row name = .error e) : e = .missingColumn name := by
  rw [takeColumn] at h
  split at h <;> cases h
  rfl

theorem columnValues_error {name : String} {e : Error} : ∀ {rows : List Row},
    columnValues name rows = .error e → e = .missingColumn name
  | row :: rest, h => by
      rw [columnValues] at h
      rcases bind_eq_error_iff.1 h with h | ⟨taken, -, h⟩
      · exact takeColumn_error h
      · rcases bind_eq_error_iff.1 h with h | ⟨values, -, h⟩
        · exact columnValues_error h
        · cases h

theorem keyedValues_error {key value : String} {e : Error} :
    ∀ {rows : List Row} {found : List (String × Value)},
    keyedValues key value found rows = .error e → ∃ column, e = .missingColumn column
  | row :: rest, found, h => by
      rw [keyedValues] at h
      rcases bind_eq_error_iff.1 h with h | ⟨k, -, h⟩
      · rw [Row.get] at h
        split at h <;> cases h
        exact ⟨key, rfl⟩
      · rcases bind_eq_error_iff.1 h with h | ⟨taken, -, h⟩
        · exact ⟨value, takeColumn_error h⟩
        · exact keyedValues_error h

/-- Rows that cannot be shaped lack a column. -/
theorem ofRows_error {rows : List Row} {shape : Shape} {e : Error}
    (h : ofRows rows shape = .error e) : ∃ column, e = .missingColumn column := by
  cases shape with
  | records => cases h
  | affected => cases h
  | column name => exact ⟨name, columnValues_error (map_eq_error_iff.1 h)⟩
  | pairs key value => exact keyedValues_error (map_eq_error_iff.1 h)

end Output

/-- A failure of a transport is no matter of validation. -/
theorem Transport.isValidation_of_tied_error {sql : String} {r : Except Failure α} {e : Error}
    (h : tied sql r = .error e) : e.isValidation = false := by
  cases r with
  | ok a => cases h
  | error f =>
    cases h
    rfl

/-- What fails once a statement is sent is no matter of validation. -/
theorem Statement.isValidation_of_run_error {s : Statement} {t : Transport σ} {state : σ}
    {e : Error} (h : (s.run t state).result = .error e) : e.isValidation = false := by
  rw [run] at h
  split at h
  · exact Transport.isValidation_of_tied_error (map_eq_error_iff.1 h)
  · rcases bind_eq_error_iff.1 h with h | ⟨rows, -, h⟩
    · exact Transport.isValidation_of_tied_error h
    · obtain ⟨column, rfl⟩ := Output.ofRows_error h
      rfl

namespace Builder

/-- Rows that cannot all be read have one that cannot be read. -/
theorem readRows_error {read : Row → Except Error α} {e : Error} : ∀ {rows : List Row},
    readRows read rows = .error e → ∃ row ∈ rows, read row = .error e
  | row :: rest, h => by
      rw [readRows] at h
      rcases bind_eq_error_iff.1 h with h | ⟨a, -, h⟩
      · exact ⟨row, List.mem_cons_self, h⟩
      · rcases bind_eq_error_iff.1 h with h | ⟨as, -, h⟩
        · obtain ⟨other, hother, hread⟩ := readRows_error h
          exact ⟨other, List.mem_cons_of_mem row hother, hread⟩
        · cases h

/-- The three ways in which a fetch fails: on a mutation, on a draft that fails,
and after sending, which is no matter of validation. -/
theorem fetch_error_cases {b : Builder} {r : Reader α} {t : Transport σ} {state : σ} {e : Error}
    (h : (b.fetch r.read t state).1.result = .error e) :
    b.mutation? ≠ none ∨ b.draft = .error e ∨ e.isValidation = false := by
  cases hm : b.mutation? with
  | some kind => simp
  | none =>
    cases hd : b.draft with
    | error e' =>
      have he : e' = e := by simpa [fetch, hm, compile_of_draft_error hd] using h
      exact .inr (.inl (by rw [he]))
    | ok s =>
      simp only [fetch, hm, compile_of_draft_ok hd] at h
      refine .inr (.inr ?_)
      rcases bind_eq_error_iff.1 h with h | ⟨rows, -, h⟩
      · exact Transport.isValidation_of_tied_error h
      · obtain ⟨row, -, hrow⟩ := readRows_error h
        obtain ⟨what, rfl⟩ := r.decode_of_error hrow
        rfl

/-- The two ways in which executing fails. -/
theorem execute_error_cases {b : Builder} {t : Transport σ} {state : σ} {e : Error}
    (h : (b.execute t state).1.result = .error e) :
    b.draft = .error e ∨ e.isValidation = false := by
  cases hd : b.draft with
  | error e' =>
    have he : e' = e := by simpa [execute, compile_of_draft_error hd] using h
    exact .inl (by rw [he])
  | ok s =>
    have hrun : (s.run t state).result = .error e := by
      simpa [execute, compile_of_draft_ok hd, Exchange.after] using h
    exact .inr (Statement.isValidation_of_run_error hrun)

end Builder

/-! ## 2. Refused uses -/

/-- A use that fails before anything is sent, with its error: a call, compiling,
executing and fetching where a check of validation fails, and a fetch that is
refused because the statement in the making is a mutation. -/
def Use.Refused (b : Builder) (e : Error) : Use → Prop
  | .declare c => (b.call c).1 = .error e
  | .compile => b.compile.result = .error e
  | .execute t state => (b.execute t state).1.result = .error e ∧ e.isValidation = true
  | .fetch r t state =>
    (b.fetch r.read t state).1.result = .error e ∧
      (e.isValidation = true ∨ b.mutation? ≠ none)
  | .reset => False

theorem Use.ends_of_draft_error {b : Builder} {e : Error} (h : b.draft = .error e) (u : Use)
    (hu : u ≠ .reset) : u.ends b = false := by
  cases u with
  | reset => exact absurd rfl hu
  | _ => simp [ends, h, Except.isOk, Except.toBool]

/-- A use that is no call and is refused does not end the statement in the
making. -/
theorem Use.ends_of_refused {b : Builder} {e : Error} {u : Use} (h : u.Refused b e) :
    u.ends b = false := by
  cases u with
  | declare c => rfl
  | reset => exact h.elim
  | compile =>
    exact ends_of_draft_error (by simpa [Refused] using h) _ (by simp)
  | execute t state =>
    obtain ⟨herror, hvalid⟩ := h
    rcases Builder.execute_error_cases herror with hd | hd
    · exact ends_of_draft_error hd _ (by simp)
    · rw [hd] at hvalid
      cases hvalid
  | fetch r t state =>
    obtain ⟨herror, hvalid⟩ := h
    by_cases hm : b.mutation? = none
    · rcases Builder.fetch_error_cases herror with hne | hd | hd
      · exact absurd hm hne
      · exact ends_of_draft_error hd _ (by simp)
      · rw [hd] at hvalid
        exact absurd hm (hvalid.resolve_left (by simp))
    · simp [ends, hm]

/-- **A refused use changes nothing**, and whether a call is refused, and why,
does not depend on the builder. -/
theorem refused_use_keeps_builder :
    (∀ (b : Builder) (u : Use) (e : Error), u.Refused b e → u.apply b = b) ∧
    ∀ (c : Call) (b b' : Builder), (b.call c).1 = (b'.call c).1 := by
  constructor
  · intro b u e h
    by_cases hu : ∃ c, u = .declare c
    · obtain ⟨c, rfl⟩ := hu
      rw [Use.apply_declare, (b.call_error_iff c e).1 h]
    · rw [Use.apply_of_not_declare b u fun c hc => hu ⟨c, hc⟩, Use.ends_of_refused h]
      rfl
  · intro c b b'
    rw [b.call_eq, b'.call_eq]
    cases c.check <;> rfl

/-- An INSERT with a row that is too short does not compile, has no rows to
fetch, and stays. -/
theorem refused_use_keeps_builder_of_misfit :
    let b := (Builder.ofPaging .standard).run [
      .declare (.insertInto "products" (.columns ["id", "name"])), .declare (.values [.int 1])]
    let t : Transport Unit :=
      ⟨fun _ state => ⟨.ok [], [], state⟩, fun _ state => ⟨.ok 0, [], state⟩⟩
    let fetch := Use.fetch (Reader.ofSchema [⟨"id", .integer, false⟩]) t ()
    (Use.compile.Refused b (.arityMismatch 2 "id, name" 1) ∧ Use.compile.apply b = b) ∧
      fetch.Refused b (.decode "INSERT returns no rows to decode") ∧ fetch.apply b = b := by
  intro b t fetch
  have hcompile : Use.compile.Refused b (.arityMismatch 2 "id, name" 1) := by
    change b.compile.result = _
    decide
  have hmutation : b.mutation? = some .insert := by decide
  have hfetch : fetch.Refused b (.decode "INSERT returns no rows to decode") := by
    refine ⟨?_, .inr (by simp [hmutation])⟩
    rw [Builder.fetch, hmutation]
    rfl
  exact ⟨⟨hcompile, refused_use_keeps_builder.1 b _ _ hcompile⟩,
    hfetch, refused_use_keeps_builder.1 b _ _ hfetch⟩

end SearchSql
