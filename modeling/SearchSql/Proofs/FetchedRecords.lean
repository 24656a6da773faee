/-
SearchSql.Proofs.FetchedRecords — what comes of fetching records.

Fetching compiles a SELECT, queries once and reads every row. A statement that
changes the index is refused before it is compiled: it has no rows to read, so
the error is one of reading, though nothing was sent. In every other case the
class of the error tells whether something was sent.

* `Builder.readRows_eq_ok_iff`, `Builder.readRows_eq_error_iff` — the rows are
  read in order, one record for each, or the first that cannot be read decides.
* `Builder.fetch_sends_once` — a fetch on every path.
-/
import Mathlib.Data.List.Forall2
import SearchSql.Proofs.SentStatements

namespace SearchSql.Builder

/-! ## 1. Rows read in order -/

/-- Reading succeeds where every row can be read, with the records in the order
of the rows. -/
theorem readRows_eq_ok_iff {read : Row → Except Error α} :
    ∀ {rows : List Row} {records : List α}, readRows read rows = .ok records ↔
      List.Forall₂ (fun row record => read row = .ok record) rows records
  | [], records => by
      rw [readRows, List.forall₂_nil_left_iff, Except.ok.injEq]
      exact eq_comm
  | row :: rest, records => by
      rw [readRows, bind_eq_ok_iff, List.forall₂_cons_left_iff]
      refine exists_congr fun record => ?_
      simp only [bind_eq_ok_iff, readRows_eq_ok_iff, Except.ok.injEq]
      constructor
      · rintro ⟨hrow, others, hothers, rfl⟩
        exact ⟨others, hrow, hothers, rfl⟩
      · rintro ⟨others, hrow, hothers, rfl⟩
        exact ⟨hrow, others, hothers, rfl⟩

/-- The first row that cannot be read, with the reason. -/
def FirstUnreadable (read : Row → Except Error α) (rows : List Row) (e : Error) : Prop :=
  ∃ earlier row later, rows = earlier ++ row :: later ∧
    (∀ other ∈ earlier, ∃ record, read other = .ok record) ∧ read row = .error e

/-- Reading fails where a row cannot be read, with the error of the first. -/
theorem readRows_eq_error_iff {read : Row → Except Error α} {e : Error} :
    ∀ {rows : List Row}, readRows read rows = .error e ↔ FirstUnreadable read rows e
  | [] => by simp [readRows, FirstUnreadable]
  | row :: rest => by
      rw [readRows, bind_eq_error_iff]
      -- The first row is the one that fails, or it can be read and stands
      -- before the one that fails.
      constructor
      · rintro (hrow | ⟨record, hrow, hrest⟩)
        · exact ⟨[], row, rest, rfl, by simp, hrow⟩
        · rcases bind_eq_error_iff.1 hrest with hrest | ⟨_, -, hok⟩
          · obtain ⟨earlier, bad, later, rfl, hearlier, hbad⟩ := readRows_eq_error_iff.1 hrest
            refine ⟨row :: earlier, bad, later, rfl, ?_, hbad⟩
            exact List.forall_mem_cons.2 ⟨⟨record, hrow⟩, hearlier⟩
          · cases hok
      · rintro ⟨earlier, bad, later, hrows, hearlier, hbad⟩
        cases earlier with
        | nil =>
          obtain ⟨rfl, rfl⟩ := List.cons.inj hrows
          exact .inl hbad
        | cons first earlier =>
          obtain ⟨rfl, rfl⟩ := List.cons.inj hrows
          obtain ⟨⟨record, hrow⟩, hearlier⟩ := List.forall_mem_cons.1 hearlier
          exact .inr ⟨record, hrow, bind_eq_error_iff.2
            (.inl (readRows_eq_error_iff.2 ⟨earlier, bad, later, rfl, hearlier, hbad⟩))⟩

/-! ## 2. A fetch on every path -/

/-- What comes of fetching where compiling gives a statement. -/
structure FetchesOnce (b : Builder) (r : Reader α) (t : Transport σ) (state : σ)
    (calls : List Sent) (s : Statement) : Prop where
  /-- One call is made, a query of the compiled text. -/
  sent : (b.fetch r.read t.noting (calls, state)).1.state.1 = calls ++ [.query s.sql]
  /-- The builder is ready for the next statement. -/
  builder : (b.fetch r.read t.noting (calls, state)).2 = ofPaging b.defaults
  /-- A failure of the transport is tied to the text. -/
  failure : ∀ f, (t.query s.sql state).result = .error f →
    (b.fetch r.read t.noting (calls, state)).1.result = .error (.transport f.message s.sql)
  /-- Of rows that can all be read, each gives its record, in order. -/
  records : ∀ rows, (t.query s.sql state).result = .ok rows → ∀ records,
    (b.fetch r.read t.noting (calls, state)).1.result = .ok records ↔
      List.Forall₂ (fun row record => r.read row = .ok record) rows records
  /-- Of other rows, the first that cannot be read decides. -/
  unreadable : ∀ rows, (t.query s.sql state).result = .ok rows → ∀ e,
    (b.fetch r.read t.noting (calls, state)).1.result = .error e ↔
      FirstUnreadable r.read rows e

variable {b : Builder}

theorem fetch_of_draft_error (hm : b.mutation? = none) {e : Error} (he : b.draft = .error e)
    (read : Row → Except Error α) (t : Transport σ) (state : σ) :
    b.fetch read t state = (⟨.error e, [], state⟩, b) := by
  simp only [fetch, hm, compile_of_draft_error he]

theorem fetchesOnce_of_draft (hm : b.mutation? = none) {s : Statement} (hs : b.draft = .ok s)
    (r : Reader α) (t : Transport σ) (state : σ) (calls : List Sent) :
    b.FetchesOnce r t state calls s := by
  have hfetch : b.fetch r.read t.noting (calls, state)
      = (((Transport.noted (calls ++ [.query s.sql]) (t.query s.sql state)).mapResult fun result =>
          (Transport.tied s.sql result).bind (readRows r.read)).after (b.notices s), b.reset) := by
    simp only [fetch, hm, compile_of_draft_ok hs]
    rfl
  have hresult : (b.fetch r.read t.noting (calls, state)).1.result
      = (Transport.tied s.sql (t.query s.sql state).result).bind (readRows r.read) := by
    rw [hfetch]
    rfl
  refine ⟨?_, ?_, fun f hf => ?_, fun rows hrows records => ?_, fun rows hrows e => ?_⟩
  · rw [hfetch]
    rfl
  · rw [hfetch, reset_eq]
  · rw [hresult, hf]
    rfl
  · rw [hresult, hrows]
    exact readRows_eq_ok_iff
  · rw [hresult, hrows]
    exact readRows_eq_error_iff

/-- An error after the query is no matter of validation. -/
theorem FetchesOnce.isValidation_of_error {r : Reader α} {t : Transport σ} {state : σ}
    {calls : List Sent} {s : Statement} (h : b.FetchesOnce r t state calls s) {e : Error}
    (he : (b.fetch r.read t.noting (calls, state)).1.result = .error e) :
    e.isValidation = false := by
  cases hanswer : (t.query s.sql state).result with
  | error f =>
    obtain rfl : .transport f.message s.sql = e := Except.error.inj ((h.failure f hanswer).symm.trans he)
    rfl
  | ok rows =>
    obtain ⟨earlier, row, later, -, -, hrow⟩ := (h.unreadable rows hanswer e).1 he
    obtain ⟨what, rfl⟩ := r.decode_of_error hrow
    rfl

/-- **Fetching sends one query or nothing.** A statement that changes the index
is refused as having no rows to read: nothing is sent and the builder stays, but
the error is not one of validation. Of all other errors of a fetch, those of
validation are the ones that come without a call: compiling failed, and the
builder stays. Where compiling gives a statement, one query is made, and the
rows that come back are read in order. -/
theorem fetch_sends_once (hb : b.Reachable) (r : Reader α) (t : Transport σ) (state : σ)
    (calls : List Sent) :
    (∀ kind, b.mutation? = some kind →
      b.fetch r.read t.noting (calls, state)
        = (⟨.error (.decode (kind.keyword ++ " returns no rows to decode")), [],
          (calls, state)⟩, b)) ∧
    (b.mutation? = none →
      (∀ e, (b.fetch r.read t.noting (calls, state)).1.result = .error e →
        (e.isValidation = true ↔
          (b.fetch r.read t.noting (calls, state)).1.state.1 = calls)) ∧
      (∀ e, b.compile.result = .error e →
        b.fetch r.read t.noting (calls, state) = (⟨.error e, [], (calls, state)⟩, b)) ∧
      ∀ s, b.compile.result = .ok s → b.FetchesOnce r t state calls s) := by
  simp only [result_compile]
  refine ⟨fun kind hm => by simp only [fetch, hm], fun hm => ⟨fun e he => ?_, ?_, ?_⟩⟩
  · cases hd : b.draft with
    | error e' =>
      rw [fetch_of_draft_error hm hd] at he ⊢
      obtain rfl : e' = e := Except.error.inj he
      simp [isValidation_of_draft_error hb.wellFormed hd]
    | ok s =>
      have hfetches := fetchesOnce_of_draft hm hd r t state calls
      rw [hfetches.isValidation_of_error he, hfetches.sent]
      simp
  · exact fun e hd => fetch_of_draft_error hm hd r.read t.noting (calls, state)
  · exact fun s hs => fetchesOnce_of_draft hm hs r t state calls

/-- Three rows of which the second and the third are no records: one query, and
the error of the second. -/
theorem fetch_sends_once_of_misfit :
    let b := (ofPaging .standard).run [.declare (.selectFrom "products" (.parse "id, price")),
      .declare (.filter "price" .gt (.scalar (.int 10)))]
    let sql := "SELECT id, price, WEIGHT() AS weight FROM products WHERE price > 10"
      ++ " LIMIT 0, 20 OPTION max_matches=1000"
    let r := Reader.ofSchema [⟨"id", .integer, false⟩]
    let t : Transport Unit := ⟨fun _ state =>
      ⟨.ok [⟨[("id", .int 1)]⟩, ⟨[("id", .null)]⟩, ⟨[]⟩], [], state⟩,
      fun _ state => ⟨.ok 0, [], state⟩⟩
    let e := Error.decode "invalid type: null, expected i64"
    b.Reachable ∧ b.mutation? = none ∧ b.compile.result = .ok ⟨.select, "products", sql, .records⟩ ∧
      (b.fetch r.read t.noting ([], ())).1.state.1 = [.query sql] ∧
      (b.fetch r.read t.noting ([], ())).1.result = .error e ∧ e.isValidation = false := by
  intro b sql r t e
  have hb : b.Reachable := reachable_run _ _
  have hm : b.mutation? = none := by decide
  have hs : b.compile.result = .ok ⟨.select, "products", sql, .records⟩ := by decide +kernel
  have hfetches := ((fetch_sends_once hb r t () []).2 hm).2.2 _ hs
  have hfirst : FirstUnreadable r.read [⟨[("id", .int 1)]⟩, ⟨[("id", .null)]⟩, ⟨[]⟩] e :=
    ⟨[⟨[("id", .int 1)]⟩], ⟨[("id", .null)]⟩, [⟨[]⟩], rfl,
      by simpa using ⟨[("id", .int 1)], by decide⟩, by decide⟩
  exact ⟨hb, hm, hs, hfetches.sent, (hfetches.unreadable _ rfl e).2 hfirst, rfl⟩

/-- A DELETE that is fetched fails without a call, and not with an error of
validation. -/
theorem not_isValidation_of_refused_fetch :
    let b := (ofPaging .standard).run [.declare (.deleteFrom "products"),
      .declare (.filter "id" .eq (.scalar (.int 1)))]
    let r := Reader.ofSchema [⟨"id", .integer, false⟩]
    let t : Transport Unit :=
      ⟨fun _ state => ⟨.ok [], [], state⟩, fun _ state => ⟨.ok 1, [], state⟩⟩
    b.Reachable ∧
      ¬ ∀ e, (b.fetch r.read t.noting ([], ())).1.result = .error e →
        (e.isValidation = true ↔ (b.fetch r.read t.noting ([], ())).1.state.1 = []) := by
  intro b r t
  refine ⟨reachable_run _ _, fun h => ?_⟩
  have hm : b.mutation? = some .delete := by decide
  have hfetch : b.fetch r.read t.noting ([], ())
      = (⟨.error (.decode "DELETE returns no rows to decode"), [], ([], ())⟩, b) := by
    simp only [fetch, hm]
    rfl
  rw [hfetch] at h
  exact absurd ((h _ rfl).2 rfl) (by decide)

end SearchSql.Builder
