/-
SearchSql.Proofs.BoundValues — values stay inside of the strings they are
bound to.

Every fragment of a statement is plain, or holds the strings of the values in
it and is plain around them. Names have the characters of names, numbers the
characters of numbers, and what is quoted is escaped. Put together, the strings
of a statement are the full-text query, if there is one, and the quoted values
in the order in which they were declared (`Builder.scan_of_compile`).
-/
import SearchSql.Proofs.CompileOutcome
import SearchSql.Proofs.NumeralChars
import SearchSql.Proofs.StringScan

namespace SearchSql

open SearchSql.Number SearchSql.Text

/-! ## 1. Plain fragments -/

/-- A text is plain when its characters are of a class without those that quote
or separate. -/
theorem IsPlain.of_class {p : Char → Bool}
    (hp : p '\'' = false ∧ p '"' = false ∧ p '\\' = false ∧ p ';' = false)
    {s : String} (hs : ∀ c ∈ s.toList, p c = true) : IsPlain s := by
  intro c hc
  have hpc := hs c hc
  rw [isSpecial, decide_eq_false_iff_not]
  intro hmem
  simp only [List.mem_cons, List.not_mem_nil, or_false] at hmem
  obtain ⟨hquote, hdouble, hback, hend⟩ := hp
  rcases hmem with rfl | rfl | rfl | rfl <;> simp_all

theorem HasNumeralChars.isPlain {s : String} (h : HasNumeralChars s.toList) : IsPlain s :=
  IsPlain.of_class (p := isNumeralChar) (by decide) h

theorem isPlain_natText (n : Nat) : IsPlain (natText n) :=
  HasNumeralChars.isPlain (by simpa [natText] using HasNumeralChars.natChars n)

theorem Name.IsField.isPlain {name : String} (h : IsField name) : IsPlain name :=
  IsPlain.of_class (p := isFieldChar) (by decide) h.chars

theorem Name.IsIndex.isPlain {index : String} (h : IsIndex index) : IsPlain index :=
  IsPlain.of_class (p := fun c => isWordChar c || decide (c = ',') || isBlank c) (by decide)
    fun c hc => by simpa [or_assoc] using h.chars c hc

theorem isPlain_symbol (op : Operator) : IsPlain op.symbol := by
  cases op <;> decide

theorem isPlain_keyword (k : Kind) : IsPlain k.keyword := by
  cases k <;> decide

theorem isPlain_direction (d : Direction) : IsPlain d.keyword := by
  cases d <;> decide

/-! ## 2. Literals -/

namespace Value

/-- The text that a value has between quotes, if it is quoted at all: a text
that is no number, trimmed, and a double that is not finite. -/
def quoted? : Value → Option String
  | .null | .int _ => none
  | .float x => if x.isFinite then none else some (Number.display.text x)
  | .text s => if Literal.isNumeric (trimChars s.toList) then none else some (trim s)

/-- The string that a value is in a statement, if it is one. -/
def string? (v : Value) : Option String :=
  v.quoted?.map Literal.escape

/-- A literal is a quoted text, the word `NULL` or a number. -/
theorem literal_eq (v : Value) :
    (∃ s, v.quoted? = some s ∧ v.literal = Literal.quote s) ∨
      v.quoted? = none ∧ (v.literal = "NULL" ∨ HasNumeralChars v.literal.toList) := by
  cases v with
  | null => exact .inr ⟨rfl, .inl rfl⟩
  | int n =>
    refine .inr ⟨rfl, .inr ?_⟩
    simpa [literal, intText] using HasNumeralChars.intChars n.toInt
  | float x =>
    cases hx : x.isFinite with
    | true =>
      refine .inr ⟨by simp [quoted?, hx], .inr ?_⟩
      simpa [literal, hx] using HasNumeralChars.display hx
    | false =>
      exact .inl ⟨Number.display.text x, by simp [quoted?, hx], by simp [literal, hx]⟩
  | text s =>
    cases hs : Literal.isNumeric (trimChars s.toList) with
    | true =>
      refine .inr ⟨by simp [quoted?, hs], .inr ?_⟩
      simpa [literal, Literal.ofText, hs] using HasNumeralChars.of_isNumeric hs
    | false => exact .inl ⟨trim s, by simp [quoted?, hs], by simp [literal, Literal.ofText, hs]⟩

theorem holds_literal (v : Value) : Holds v.literal v.string?.toList := by
  rcases v.literal_eq with ⟨s, hs, hliteral⟩ | ⟨hs, hliteral⟩
  · rw [hliteral, string?, hs]
    exact Holds.quote s
  · have hplain : IsPlain v.literal := by
      rcases hliteral with hnull | hnumeral
      · rw [hnull]
        decide
      · exact hnumeral.isPlain
    rw [string?, hs]
    exact Holds.of_isPlain hplain

theorem flatMap_string? (vs : List Value) :
    vs.flatMap (fun v => v.string?.toList) = vs.filterMap string? := by
  induction vs with
  | nil => rfl
  | cons v vs ih =>
    rw [List.flatMap_cons, ih]
    cases hv : v.string? <;> simp [hv]

theorem holds_literals (vs : List Value) : Holds (literals vs) (vs.filterMap string?) := by
  rw [literals, ← flatMap_string?]
  exact Holds.intercalate (by decide) fun v _ => v.holds_literal

end Value

/-! ## 3. Predicates and conditions -/

theorem Phrase.closed_render (a : Anchoring) (term : String) : Closed (render a term).toList := by
  have hopening : IsPlain (opening a) := by cases a <;> decide
  have hclosing : IsPlain (closing a) := by cases a <;> decide
  have hquote : Closed "\"".toList := Closed.singleton (by decide) (by decide)
  simp only [render, String.toList_append]
  exact (((hquote.append hopening.closed).append (Closed.escape _)).append hclosing.closed).append
    hquote

namespace Predicate

/-- The values of a filter, in order. -/
def values : Predicate → List Value
  | .comparison _ _ value => [value]
  | .between _ low high => [low, high]
  | .membership _ values _ => values
  | .fullText .. => []

/-- A filter holds the strings of its values. -/
theorem holds_render {p : Predicate} (h : p.WellFormed) (hk : p.isFullText = false) :
    Holds p.render (p.values.filterMap Value.string?) := by
  cases p with
  | fullText => cases hk
  | comparison field op value =>
    have hhead : IsPlain (field ++ " " ++ op.symbol ++ " ") :=
      ((h.1.isPlain.append (by decide)).append (isPlain_symbol op)).append (by decide)
    have hvalues : [value].filterMap Value.string? = value.string?.toList := by
      simp [← Value.flatMap_string?]
    rw [render, values, hvalues]
    exact Holds.plain_append hhead value.holds_literal
  | between field low high =>
    have hhead : IsPlain (field ++ " BETWEEN ") := h.1.isPlain.append (by decide)
    have hvalues : [low, high].filterMap Value.string?
        = low.string?.toList ++ high.string?.toList := by
      simp [← Value.flatMap_string?]
    rw [render, values, hvalues]
    exact ((Holds.plain_append hhead low.holds_literal).append_plain (by decide)).append
      high.holds_literal
  | membership field vs negated =>
    have hhead : IsPlain (field ++ if negated then " NOT IN (" else " IN (") := by
      cases negated <;> exact h.1.isPlain.append (by decide)
    exact (Holds.plain_append hhead (Value.holds_literals vs)).append_plain (by decide)

/-- A full-text search stays inside of the string it stands in. -/
theorem closed_render {p : Predicate} (h : p.WellFormed) (hk : p.isFullText = true) :
    Closed p.render.toList := by
  cases p with
  | comparison | between | membership => cases hk
  | fullText field terms anchoring =>
    have hphrases :
        Closed (" | ".intercalate (terms.map (Phrase.render anchoring))).toList := by
      refine Closed.intercalate (IsPlain.closed (by decide)) fun text htext => ?_
      obtain ⟨term, -, rfl⟩ := List.mem_map.1 htext
      exact Phrase.closed_render anchoring term
    cases field with
    | none => exact hphrases
    | some name =>
      have hname : IsPlain (name ++ " ") := (h.1 name rfl).isPlain.append (by decide)
      simpa only [render, String.toList_append] using hname.closed.append hphrases

end Predicate

namespace Condition

/-- The values of the filters, in order. -/
def boundValues (c : Condition) : List Value :=
  c.filters.flatMap Predicate.values

/-- The full-text query, if there is one. -/
def queries (c : Condition) : List String :=
  if c.searches = [] then [] else [c.query]

variable {c : Condition} (hc : ∀ p ∈ c.predicates, p.WellFormed)
include hc

theorem closed_query : Closed c.query.toList := by
  refine Closed.intercalate (IsPlain.closed (by decide)) fun text htext => ?_
  obtain ⟨p, hp, rfl⟩ := List.mem_map.1 htext
  obtain ⟨hmem, hk⟩ := List.mem_filter.1 hp
  exact Predicate.closed_render (hc p hmem) hk

theorem holds_filters :
    Holds (" AND ".intercalate (c.filters.map Predicate.render))
      (c.boundValues.filterMap Value.string?) := by
  rw [boundValues, List.filterMap_flatMap]
  refine Holds.intercalate (by decide) fun p hp => ?_
  obtain ⟨hmem, hk⟩ := List.mem_filter.1 hp
  exact Predicate.holds_render (hc p hmem) (by simpa using hk)

/-- Where there is a query, a condition begins with its `MATCH`. -/
theorem render_of_query {query : String} (hq : query ∈ c.queries) :
    ∃ rest, c.render = "MATCH('" ++ query ++ "')" ++ rest := by
  rw [queries] at hq
  split at hq
  · cases hq
  · next hs =>
    rw [List.mem_singleton] at hq
    subst hq
    exact ⟨_, render_of_searches (fun p hp => Predicate.render_ne_empty (hc p hp)) hs⟩

theorem holds_match : Holds ("MATCH('" ++ c.query ++ "')") [c.query] := by
  have hquoted := Holds.quoted (closed_query hc)
  have htext : "MATCH('" ++ c.query ++ "')" = "MATCH(" ++ ("'" ++ c.query ++ "'") ++ ")" := by
    simp [← String.toList_inj]
  rw [htext]
  exact (Holds.plain_append (by decide) hquoted).append_plain (by decide)

/-- A condition holds its query and then the strings of its filters. -/
theorem holds_render :
    Holds c.render (c.queries ++ c.boundValues.filterMap Value.string?) := by
  have hne : ∀ p ∈ c.predicates, p.render ≠ "" := fun p hp => Predicate.render_ne_empty (hc p hp)
  rw [queries]
  by_cases hs : c.searches = []
  · rw [render_eq hne, clauses, if_pos hs, if_pos hs]
    exact holds_filters hc
  · rw [render_of_searches hne hs, if_neg hs]
    refine (holds_match hc).append ?_
    by_cases hf : c.filters = []
    · rw [if_pos hf, boundValues, hf]
      exact Holds.of_isPlain (by decide)
    · rw [if_neg hf]
      exact Holds.plain_append (by decide) (holds_filters hc)

end Condition

/-! ## 4. Statements -/

theorem Options.isPlain_renderOrder {o : Options}
    (hgroup : ∀ column ∈ o.groupBy, Name.IsField column)
    (horder : ∀ order ∈ o.orderBy, Name.IsField order.1) : IsPlain o.renderOrder := by
  unfold renderOrder
  refine IsPlain.append ?_ ?_
  · cases hg : o.groupBy with
    | none => decide
    | some column => exact IsPlain.append (by decide) (hgroup column hg).isPlain
  · cases ho : o.orderBy with
    | none => decide
    | some order =>
      have hcolumn := (horder order ho).isPlain
      exact ((IsPlain.append (by decide) hcolumn).append (by decide)).append
        (isPlain_direction order.2)

theorem Options.isPlain_renderPaging (o : Options) : IsPlain o.renderPaging :=
  ((((IsPlain.append (by decide) (isPlain_natText _)).append (by decide)).append
    (isPlain_natText _)).append (by decide)).append (isPlain_natText _)

theorem Fields.isPlain_render {f : Fields} (h : ∀ name ∈ f.names, IsPlain name) :
    IsPlain f.render :=
  IsPlain.intercalate (by decide) h

namespace Builder

/-- The full-text query of a statement, if it is of a kind with conditions and
has one. -/
def queries (b : Builder) : Kind → List String
  | .select | .delete => b.condition.queries
  | .insert | .replace => []

/-- The values that a statement of a kind is made with, in the order of their
declaration: those of the filters, or those of the rows, row by row. -/
def boundValues (b : Builder) : Kind → List Value
  | .select | .delete => b.condition.boundValues
  | .insert | .replace => b.rows.flatten

variable {b : Builder} {t : Target} (hb : b.WellFormed) (ht : b.target = some t)
include hb ht

theorem holds_selectText (hfields : ∀ name ∈ t.fields.names, IsPlain name) :
    Holds (b.selectText t)
      (b.condition.queries ++ b.condition.boundValues.filterMap Value.string?) := by
  have hhead : IsPlain ("SELECT " ++ t.fields.render ++ ", WEIGHT() AS weight FROM " ++ t.index
      ++ " WHERE ") :=
    (((IsPlain.append (by decide) (Fields.isPlain_render hfields)).append (by decide)).append
      (hb.target t ht).index.isPlain).append (by decide)
  have hcondition := Holds.plain_append hhead (Condition.holds_render hb.predicates)
  exact (hcondition.append_plain (Options.isPlain_renderOrder hb.groupBy hb.orderBy)).append_plain
    (Options.isPlain_renderPaging _)

theorem holds_deleteText :
    Holds (b.deleteText t)
      (b.condition.queries ++ b.condition.boundValues.filterMap Value.string?) := by
  have hhead : IsPlain ("DELETE FROM " ++ t.index ++ " WHERE ") :=
    (IsPlain.append (by decide) (hb.target t ht).index.isPlain).append (by decide)
  exact Holds.plain_append hhead (Condition.holds_render hb.predicates)

theorem holds_writeText (hk : t.kind = .insert ∨ t.kind = .replace) :
    Holds (b.writeText t) (b.rows.flatten.filterMap Value.string?) := by
  obtain ⟨names, hnames, -, hclean⟩ := (hb.target t ht).columns hk
  have hcolumns : IsPlain t.fields.render := by
    rw [hnames]
    exact Fields.isPlain_render fun name hname => (hclean name hname).isPlain
  have hhead : IsPlain (t.kind.keyword ++ " INTO " ++ t.index ++ " (" ++ t.fields.render
      ++ ") VALUES ") :=
    ((((IsPlain.append (isPlain_keyword _) (by decide)).append
      (hb.target t ht).index.isPlain).append (by decide)).append hcolumns).append (by decide)
  rw [writeText, List.filterMap_flatten]
  refine Holds.plain_append hhead ?_
  rw [← List.flatMap_def]
  refine Holds.intercalate (by decide) fun row _ => ?_
  exact (Holds.plain_append (by decide) (Value.holds_literals row)).append_plain (by decide)

omit ht in
/-- The text of a draft holds its query and the strings of its values. -/
theorem holds_sql {s : Statement} (hs : b.draft = .ok s)
    (hfields : s.kind = .select → ∀ t ∈ b.target, ∀ name ∈ t.fields.names, IsPlain name) :
    Holds s.sql (b.queries s.kind ++ (b.boundValues s.kind).filterMap Value.string?) := by
  obtain ⟨t, ht, ⟨-, -, rfl⟩ | ⟨-, -, rfl⟩ | ⟨hk, -, rfl⟩⟩ := draft_ok_cases hb hs
  · exact holds_selectText hb ht (hfields rfl t ht)
  · exact holds_deleteText hb ht
  · -- What was searched and filtered is no part of a statement that writes.
    have hparts : b.queries t.kind = [] ∧ b.boundValues t.kind = b.rows.flatten := by
      rcases hk with hk | hk <;> simp [hk, queries, boundValues]
    rw [hparts.1, hparts.2, List.nil_append]
    exact holds_writeText hb ht hk

omit ht in
/-- The query of a SELECT or DELETE is the argument of a `MATCH` that stands
first behind `WHERE`. -/
theorem match_of_draft {s : Statement} (hs : b.draft = .ok s) :
    ∀ query ∈ b.queries s.kind,
      ∃ head tail, s.sql = head ++ " WHERE MATCH('" ++ query ++ "')" ++ tail := by
  intro query hquery
  have hk : (s.kind = .select ∨ s.kind = .delete) ∧ query ∈ b.condition.queries := by
    cases hkind : s.kind <;> simp_all [queries]
  obtain ⟨hk, hquery⟩ := hk
  obtain ⟨-, head, tail, hsql⟩ := where_of_draft hb hs hk
  obtain ⟨rest, hrest⟩ := Condition.render_of_query hb.predicates hquery
  refine ⟨head, rest ++ tail, ?_⟩
  rw [hsql, hrest]
  simp [← String.toList_inj]

omit hb ht in
/-- **No value leaves the string it is bound to.** Read from left to right, a
compiled statement ends outside of strings; the strings met are the full-text
query in its `MATCH`, if there is one, and the quoted values in the order of
their declaration, escaped; and outside of strings there is no character that
quotes, takes or separates. A SELECT projects what it is told to, so its fields
have to be plain themselves. -/
theorem scan_of_compile (hb : b.Reachable) {s : Statement} (hs : b.compile.result = .ok s)
    (hfields : s.kind = .select → ∀ t ∈ b.target, ∀ name ∈ t.fields.names,
      ∀ c ∈ name.toList, c ≠ '\'' ∧ c ≠ '"' ∧ c ≠ '\\' ∧ c ≠ ';') :
    (scan s.sql).mode = .outside ∧
    (scan s.sql).strings = b.queries s.kind ++
      ((b.boundValues s.kind).filterMap Value.quoted?).map Literal.escape ∧
    (∀ query ∈ b.queries s.kind,
      ∃ head tail, s.sql = head ++ " WHERE MATCH('" ++ query ++ "')" ++ tail) ∧
    ∀ c ∈ (scan s.sql).plain, c ≠ '\\' ∧ c ≠ '"' ∧ c ≠ ';' := by
  rw [result_compile] at hs
  have hwf := hb.wellFormed
  have hplain : s.kind = .select → ∀ t ∈ b.target, ∀ name ∈ t.fields.names, IsPlain name := by
    intro hk t ht name hname c hc
    rw [isSpecial_eq_false_iff]
    exact hfields hk t ht name hname c hc
  obtain ⟨hmode, hstrings, hspecial⟩ := (holds_sql hwf hs hplain).scan_eq
  refine ⟨hmode, ?_, match_of_draft hwf hs, fun c hc => ?_⟩
  · rw [hstrings, List.map_filterMap]
    rfl
  · have hc := (isSpecial_eq_false_iff c).1 (hspecial c hc)
    exact ⟨hc.2.2.1, hc.2.1, hc.2.2.2⟩

omit hb ht in
/-- Quotes and backslashes in a term, in a text and in a list. -/
theorem scan_of_compile_quotes :
    let b := (ofPaging .standard).run [
      .declare (.selectFrom "products" (.columns ["id", "title"])),
      .declare (.filter "brand" .eq (.scalar (.text " O'Neill\\ "))),
      .declare (.search "title" ["it's", "c:\\"] .loose),
      .declare (.oneOf false "price" [.int 5, .text "7.5", .text "'; --"])]
    let sql := "SELECT id, title, WEIGHT() AS weight FROM products WHERE "
      ++ "MATCH('title \"it\\'s\" | \"c:\\\\\"') AND brand = 'O\\'Neill\\\\' "
      ++ "AND price IN (5, 7.5, '\\'; \\\\-\\\\-') LIMIT 0, 20 OPTION max_matches=1000"
    b.Reachable ∧ b.compile.result = .ok ⟨.select, "products", sql, .records⟩ ∧
      (scan sql).mode = .outside ∧ (scan sql).strings
        = ["title \"it\\'s\" | \"c:\\\\\"", "O\\'Neill\\\\", "\\'; \\\\-\\\\-"] := by
  intro b sql
  have hb : b.Reachable := reachable_run _ _
  have hs : b.compile.result = .ok ⟨.select, "products", sql, .records⟩ := by decide +kernel
  have ht : b.target = some ⟨.select, "products", .columns ["id", "title"]⟩ := by decide
  obtain ⟨hmode, hstrings, -⟩ := scan_of_compile hb hs (by simp [ht, Fields.names])
  exact ⟨hb, hs, hmode, hstrings.trans (by decide)⟩

end Builder

end SearchSql
