/-
SearchSql.Proofs.SentStatements — what reaches the transport.

A transport that notes its calls (`Transport.noting`) answers as before and
shows what was sent. Executing sends nothing where compiling fails. Where it
succeeds, one call is made: it has the compiled text, its method is that of the
statement's kind, and the first word of the text tells the same kind
(`Builder.execute_sends_once`).
-/
import SearchSql.Proofs.CompileOutcome
import SearchSql.Proofs.FailedCalls
import SearchSql.Proofs.FreshBuilders

namespace SearchSql

open SearchSql.Text

/-! ## 1. Noted calls -/

/-- A call of a transport with the text that was sent. -/
inductive Sent
  | query (sql : String)
  | execute (sql : String)
deriving DecidableEq, Repr

namespace Transport

/-- A call noted behind those before it. -/
def noted (calls : List Sent) (e : Exchange ε σ α) : Exchange ε (List Sent × σ) α :=
  ⟨e.result, e.events, (calls, e.state)⟩

/-- A transport with a list of the calls made of it. -/
def noting (t : Transport σ) : Transport (List Sent × σ) where
  query sql s := noted (s.1 ++ [.query sql]) (t.query sql s.2)
  execute sql s := noted (s.1 ++ [.execute sql]) (t.execute sql s.2)

end Transport

/-- The call that a statement makes. -/
def Statement.call (s : Statement) : Sent :=
  match s.kind with
  | .select => .query s.sql
  | .insert | .replace | .delete => .execute s.sql

/-- A statement that is run makes its call and no other, and being noted changes
nothing else. -/
theorem Statement.run_noting (s : Statement) (t : Transport σ) (calls : List Sent) (state : σ) :
    s.run t.noting (calls, state) = Transport.noted (calls ++ [s.call]) (s.run t state) := by
  cases hk : s.kind <;> simp only [run, call, hk] <;> rfl

/-! ## 2. The kind of a text -/

theorem Kind.ofText?_of_toList {k : Kind} {sql : String} {rest : List Char}
    (h : sql.toList = k.keyword.toList ++ ' ' :: rest) : ofText? sql = some k := by
  have hword : (trimStartChars sql.toList).takeWhile isLetter = k.keyword.toList := by
    rw [h]
    cases k <;> rfl
  rw [ofText?, hword]
  cases k <;> rfl

namespace Builder

variable {b : Builder}

/-- The kind of a draft is the kind that was started, and the first word of its
text tells it. -/
theorem kind_of_draft (hb : b.WellFormed) {s : Statement} (hs : b.draft = .ok s) :
    b.target.map Target.kind = some s.kind ∧ Kind.ofText? s.sql = some s.kind := by
  obtain ⟨t, ht, ⟨hk, -, rfl⟩ | ⟨hk, -, rfl⟩ | ⟨hk, -, rfl⟩⟩ := draft_ok_cases hb hs
  all_goals
    rw [ht, Option.map_some]
    refine ⟨by simp [hk], ?_⟩
    apply Kind.ofText?_of_toList
  · simp only [selectText, String.append_assoc, String.toList_append]
    rfl
  · simp only [deleteText, String.append_assoc, String.toList_append]
    rfl
  · rw [writeText]
    simp only [String.append_assoc, String.toList_append]
    rfl

/-! ## 3. Executing -/

/-- What comes of executing where compiling gives a statement. -/
structure SendsOnce (b : Builder) (t : Transport σ) (state : σ) (calls : List Sent)
    (s : Statement) : Prop where
  /-- One call is made: by `query` for a SELECT and by `execute` for the others. -/
  sent : (b.execute t.noting (calls, state)).1.state.1 = calls ++ [match s.kind with
    | .select => .query s.sql
    | .insert | .replace | .delete => .execute s.sql]
  /-- The kind was declared and can be told from the text. -/
  kind : b.target.map Target.kind = some s.kind ∧ Kind.ofText? s.sql = some s.kind
  /-- The builder is ready for the next statement. -/
  builder : (b.execute t.noting (calls, state)).2 = ofPaging b.defaults
  /-- Rows are shaped, a count is handed on, and a failure is tied to the text. -/
  result : (b.execute t.noting (calls, state)).1.result = match s.kind with
    | .select =>
      match (t.query s.sql state).result with
      | .ok rows => Output.ofRows rows s.shape
      | .error f => .error (.transport f.message s.sql)
    | .insert | .replace | .delete =>
      match (t.execute s.sql state).result with
      | .ok count => .ok (.affected count)
      | .error f => .error (.transport f.message s.sql)
  /-- No error of a sent statement is one of validation. -/
  error : ∀ e, (b.execute t.noting (calls, state)).1.result = .error e → e.isValidation = false

theorem sendsOnce_of_draft (hb : b.WellFormed) {s : Statement} (hs : b.draft = .ok s)
    (t : Transport σ) (state : σ) (calls : List Sent) : b.SendsOnce t state calls s := by
  have hexecute : b.execute t.noting (calls, state)
      = ((Transport.noted (calls ++ [s.call]) (s.run t state)).after (b.notices s), b.reset) := by
    simp only [execute, compile_of_draft_ok hs, s.run_noting]
  have hresult : (b.execute t.noting (calls, state)).1.result = (s.run t state).result := by
    rw [hexecute]
    rfl
  refine ⟨?_, kind_of_draft hb hs, ?_, ?_, fun e he => ?_⟩
  · rw [hexecute]
    rfl
  · rw [hexecute, reset_eq]
  · rw [hresult]
    cases hk : s.kind with
    | select =>
      have hrun : (s.run t state).result
          = (Transport.tied s.sql (t.query s.sql state).result).bind (Output.ofRows · s.shape) := by
        simp only [Statement.run, hk]
        rfl
      rw [hrun]
      cases (t.query s.sql state).result <;> rfl
    | insert | replace | delete =>
      have hrun : (s.run t state).result
          = (Transport.tied s.sql (t.execute s.sql state).result).map .affected := by
        simp only [Statement.run, hk]
        rfl
      rw [hrun]
      cases (t.execute s.sql state).result <;> rfl
  · exact Statement.isValidation_of_run_error (hresult.symm.trans he)

/-- An error of a draft is one of validation. -/
theorem isValidation_of_draft_error (hb : b.WellFormed) {e : Error} (h : b.draft = .error e) :
    e.isValidation = true := by
  rcases draft_error_cases hb h with ⟨-, rfl⟩ | ⟨_, _, rfl⟩ | ⟨_, rfl⟩ | ⟨_, _, _, rfl⟩ <;> rfl

/-- **Executing sends one statement or none.** Where compiling fails, nothing is
sent, the error is one of validation and the builder stays; where it gives a
statement, that is sent once, whatever the transport answers. -/
theorem execute_sends_once (hb : b.Reachable) (t : Transport σ) (state : σ)
    (calls : List Sent) :
    (∀ e, b.compile.result = .error e →
      b.execute t.noting (calls, state) = (⟨.error e, [], (calls, state)⟩, b) ∧
        e.isValidation = true) ∧
    ∀ s, b.compile.result = .ok s → b.SendsOnce t state calls s := by
  simp only [result_compile]
  refine ⟨fun e he => ⟨?_, isValidation_of_draft_error hb.wellFormed he⟩, fun s hs => ?_⟩
  · simp only [execute, compile_of_draft_error he]
  · exact sendsOnce_of_draft hb.wellFormed hs t state calls

/-- A SELECT of one column, answered by a row that lacks it: the error comes
after the one call. -/
theorem execute_sends_once_of_missing_column :
    let b := (ofPaging .standard).run [.declare (.selectFrom "products" (.expression "title")),
      .declare (.filter "price" .gt (.scalar (.int 10)))]
    let sql := "SELECT title, WEIGHT() AS weight FROM products WHERE price > 10"
      ++ " LIMIT 0, 20 OPTION max_matches=1000"
    let t : Transport Unit :=
      ⟨fun _ state => ⟨.ok [⟨[("id", .int 1)]⟩], [], state⟩, fun _ state => ⟨.ok 0, [], state⟩⟩
    b.Reachable ∧ b.compile.result = .ok ⟨.select, "products", sql, .column "title"⟩ ∧
      (b.execute t.noting ([], ())).1.state.1 = [.query sql] ∧
      (b.execute t.noting ([], ())).1.result = .error (.missingColumn "title") := by
  intro b sql t
  have hb : b.Reachable := reachable_run _ _
  have hs : b.compile.result = .ok ⟨.select, "products", sql, .column "title"⟩ := by
    decide +kernel
  have hsends := (execute_sends_once hb t () []).2 _ hs
  exact ⟨hb, hs, hsends.sent, hsends.result⟩

end Builder

end SearchSql
