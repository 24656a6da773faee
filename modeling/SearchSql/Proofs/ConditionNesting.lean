/-
SearchSql.Proofs.ConditionNesting — the parentheses of a condition.

What a condition says hangs on its parentheses. Its own are those of `MATCH` and of
lists, and they are balanced. What is bound stands in strings and so do the terms of a
search and their fields. The fields of filters stand as they are, and a field keeps its
parentheses when it is cleaned, for the sake of full-text fields. So the parentheses of
a condition are balanced exactly where those of the fields of its filters are.

* `outside` — the characters of a text that stand in no string.
* `Condition.level?_outside_render` — a condition leaves off as deep as the fields of
  its filters do.
* `Condition.balanced_of_edits` — which fields come to balanced conditions;
  `Condition.not_balanced_of_edits` has some that do not.
-/
import SearchSql.Proofs.BoundValues
import SearchSql.Proofs.Parentheses
import SearchSql.Proofs.PredicateRules

namespace SearchSql

open SearchSql.Text

/-! ## 1. Outside of strings -/

/-- The characters of a text that stand in no string, quotes left out. -/
def outside (text : String) : List Char :=
  (scan text).plain

/-- A text that closes the strings it opens. -/
def Complete (text : String) : Prop :=
  ∃ strings, Holds text strings

theorem outside_of_isPlain {text : String} (h : IsPlain text) : outside text = text.toList := by
  have hread := Holds.read_of_plain h [] []
  rw [outside, scan, Scan.start, hread]
  rfl

namespace Holds

variable {s t : String} {ss ts : List String}

theorem read_eq (h : Holds s ss) (plain : List Char) (earlier : List String) :
    Scan.read ⟨.outside, plain, earlier⟩ s.toList
      = ⟨.outside, plain ++ outside s, earlier ++ ss⟩ := by
  obtain ⟨around, -, hread⟩ := h
  have haround : outside s = around := by
    rw [outside, scan, Scan.start, hread]
    rfl
  rw [hread, haround]

theorem outside_append (hs : Holds s ss) (ht : Holds t ts) :
    outside (s ++ t) = outside s ++ outside t := by
  rw [outside, scan, String.toList_append, Scan.read_append, Scan.start, hs.read_eq, ht.read_eq]
  rfl

end Holds

/-- Nothing of a quoted text is outside. -/
theorem outside_quoted {body : String} (h : Closed body.toList) :
    outside ("'" ++ body ++ "'") = [] := by
  rw [outside, scan, String.toList_append, String.toList_append, Scan.read_append,
    Scan.read_append]
  have hopen : Scan.read Scan.start "'".toList = ⟨.inside [], [], []⟩ := rfl
  rw [hopen, h]
  rfl

/-- A text that leaves the parentheses around it as they are. -/
structure Neutral (text : String) : Prop where
  complete : Complete text
  level_eq : ∀ level, level? level (outside text) = some level

namespace Neutral

theorem of_isPlain {text : String} (h : IsPlain text) (hopen : '(' ∉ text.toList)
    (hclose : ')' ∉ text.toList) : Neutral text where
  complete := ⟨[], Holds.of_isPlain h⟩
  level_eq := by
    rw [outside_of_isPlain h]
    exact level?_of_notMem hopen hclose

theorem quoted {body : String} (h : Closed body.toList) : Neutral ("'" ++ body ++ "'") where
  complete := ⟨[body], Holds.quoted h⟩
  level_eq level := by
    rw [outside_quoted h]
    rfl

theorem append {s t : String} (hs : Neutral s) (ht : Neutral t) : Neutral (s ++ t) := by
  obtain ⟨ss, hss⟩ := hs.complete
  obtain ⟨ts, hts⟩ := ht.complete
  refine ⟨⟨ss ++ ts, hss.append hts⟩, fun level => ?_⟩
  rw [hss.outside_append hts, level?_append, hs.level_eq, Option.bind_some, ht.level_eq]

/-- A text in parentheses of its own. -/
theorem parenthesized {text : String} (h : Neutral text) : Neutral ("(" ++ text ++ ")") := by
  obtain ⟨strings, htext⟩ := h.complete
  have hopen : Holds "(" [] := Holds.of_isPlain (by decide)
  have hclose : Holds ")" [] := Holds.of_isPlain (by decide)
  have hhead := hopen.append htext
  refine ⟨⟨_, hhead.append hclose⟩, fun level => ?_⟩
  rw [hhead.outside_append hclose, hopen.outside_append htext, level?_append, level?_append]
  have hlevel : level? level (outside "(") = some (level + 1) := rfl
  rw [hlevel, Option.bind_some, h.level_eq, Option.bind_some]
  rfl

theorem intercalate {separator : String} (hsep : Neutral separator) :
    ∀ {texts : List String}, (∀ text ∈ texts, Neutral text) →
      Neutral (separator.intercalate texts)
  | [], _ => by
      rw [String.intercalate_nil]
      exact of_isPlain (by decide) (by decide) (by decide)
  | [text], h => by simpa using h
  | text :: other :: rest, h => by
      rw [String.intercalate_cons_cons]
      exact ((h text List.mem_cons_self).append hsep).append
        (intercalate hsep fun t ht => h t (List.mem_cons_of_mem text ht))

end Neutral

/-- Texts with a neutral separator between them leave off as deep as the texts alone. -/
theorem level?_outside_intercalate {separator : String} (hsep : Neutral separator) :
    ∀ {texts : List String}, (∀ text ∈ texts, Complete text) →
      Complete (separator.intercalate texts) ∧
      ∀ level, level? level (outside (separator.intercalate texts))
        = level? level (texts.flatMap outside)
  | [], _ => by
      rw [String.intercalate_nil]
      exact ⟨⟨[], Holds.of_isPlain (by decide)⟩, fun level => rfl⟩
  | [text], h => ⟨by simpa using h text, fun level => by simp⟩
  | text :: other :: rest, h => by
      obtain ⟨⟨others, hrest⟩, hlevel⟩ := level?_outside_intercalate hsep
        fun t ht => h t (List.mem_cons_of_mem text ht)
      obtain ⟨strings, htext⟩ := h text List.mem_cons_self
      obtain ⟨between, hbetween⟩ := hsep.complete
      have hhead := htext.append hbetween
      rw [String.intercalate_cons_cons]
      refine ⟨⟨_, hhead.append hrest⟩, fun level => ?_⟩
      rw [hhead.outside_append hrest, htext.outside_append hbetween, List.flatMap_cons,
        List.append_assoc, level?_append, level?_append level (outside text)]
      congr 1
      funext inside
      rw [level?_append, hsep.level_eq, Option.bind_some, hlevel]

/-! ## 2. Filters -/

/-- A literal has no parentheses but in a string. -/
theorem Value.neutral_literal (v : Value) : Neutral v.literal := by
  rcases v.literal_eq with ⟨s, -, hliteral⟩ | ⟨-, hnull | hnumeral⟩
  · rw [hliteral, Literal.quote]
    exact .quoted (Closed.escape s)
  · rw [hnull]
    exact .of_isPlain (by decide) (by decide) (by decide)
  · refine .of_isPlain hnumeral.isPlain (fun hc => ?_) (fun hc => ?_) <;>
      exact absurd (hnumeral _ hc) (by decide)

theorem Value.neutral_literals (vs : List Value) : Neutral (literals vs) := by
  refine Neutral.intercalate (.of_isPlain (by decide) (by decide) (by decide)) fun text htext => ?_
  obtain ⟨v, -, rfl⟩ := List.mem_map.1 htext
  exact v.neutral_literal

/-- A field in front of neutral text. -/
theorem level?_outside_field {field rest : String} (hfield : Name.IsField field)
    (hrest : Neutral rest) :
    Complete (field ++ rest) ∧
      ∀ level, level? level (outside (field ++ rest)) = level? level field.toList := by
  obtain ⟨strings, hstrings⟩ := hrest.complete
  have hplain := hfield.isPlain
  refine ⟨⟨strings, hstrings.plain_append hplain⟩, fun level => ?_⟩
  rw [(Holds.of_isPlain hplain).outside_append hstrings, outside_of_isPlain hplain, level?_append]
  cases level? level field.toList with
  | none => rfl
  | some inside => exact hrest.level_eq inside

/-- The literals of a filter are neutral behind the words of its relation. -/
theorem Predicate.neutral_spread {p : Predicate} {k : Clause} (hk : p.clause? = some k) :
    Neutral (k.relation.spread k.literals) := by
  have hand : Neutral " AND " := .of_isPlain (by decide) (by decide) (by decide)
  cases p with
  | fullText => cases hk
  | comparison field op value =>
    cases hk
    simpa [Relation.spread] using value.neutral_literal
  | between field low high =>
    cases hk
    simpa [Relation.spread] using (low.neutral_literal.append hand).append high.neutral_literal
  | membership field values negated =>
    cases hk
    have hlist := (Value.neutral_literals values).parenthesized
    cases negated <;> exact hlist

/-- A filter leaves off as deep as its field does. -/
theorem Predicate.level?_outside_render {p : Predicate} (h : p.WellFormed) {k : Clause}
    (hk : p.clause? = some k) :
    Complete k.render ∧
      ∀ level, level? level (outside k.render) = level? level k.field.toList := by
  have hwords : Neutral (" " ++ k.relation.words ++ " ") := by
    cases k.relation with
    | compared op => cases op <;> exact .of_isPlain (by decide) (by decide) (by decide)
    | between | oneOf | noneOf => exact .of_isPlain (by decide) (by decide) (by decide)
  have hfield : Name.IsField k.field := by
    cases p with
    | fullText => cases hk
    | comparison | between | membership =>
      cases hk
      exact h.1
  have htext : k.render
      = k.field ++ (" " ++ k.relation.words ++ " " ++ k.relation.spread k.literals) := by
    simp [Clause.render, ← String.toList_inj]
  rw [htext]
  exact level?_outside_field hfield (hwords.append (neutral_spread hk))

/-! ## 3. Conditions -/

namespace Condition

section Checked

variable {c : Condition} (hc : ∀ p ∈ c.predicates, p.WellFormed)
include hc

theorem neutral_match : Neutral ("MATCH('" ++ c.query ++ "')") := by
  have hname : Neutral "MATCH" := .of_isPlain (by decide) (by decide) (by decide)
  have htext : "MATCH('" ++ c.query ++ "')" = "MATCH" ++ ("(" ++ ("'" ++ c.query ++ "'") ++ ")") := by
    simp [← String.toList_inj]
  rw [htext]
  exact hname.append (Neutral.quoted (closed_query hc)).parenthesized

theorem level?_outside_clause {k : Clause} (hk : k ∈ c.filterClauses) :
    Complete k.render ∧
      ∀ level, level? level (outside k.render) = level? level k.field.toList := by
  obtain ⟨p, hp, hpk⟩ := List.mem_filterMap.1 hk
  exact Predicate.level?_outside_render (hc p hp) hpk

/-- A condition leaves off as deep as the fields of its filters do, one behind the
other. -/
theorem level?_outside_render (level : Nat) :
    level? level (outside c.render)
      = level? level (c.filterClauses.flatMap fun k => k.field.toList) := by
  have hne : ∀ p ∈ c.predicates, p.render ≠ "" := fun p hp => Predicate.render_ne_empty (hc p hp)
  have hand : Neutral " AND " := .of_isPlain (by decide) (by decide) (by decide)
  have hcomplete : ∀ clause ∈ c.clauses, Complete clause := by
    intro clause hclause
    rw [clauses, c.map_render_filters] at hclause
    rcases List.mem_append.1 hclause with hclause | hclause
    · split at hclause
      · cases hclause
      · rw [List.mem_singleton.1 hclause]
        exact (neutral_match hc).complete
    · obtain ⟨k, hk, rfl⟩ := List.mem_map.1 hclause
      exact (level?_outside_clause hc hk).1
  rw [render_eq hne, (level?_outside_intercalate hand hcomplete).2, clauses,
    c.map_render_filters, List.flatMap_append, level?_append]
  have hmatch : level? level ((if c.searches = [] then []
      else ["MATCH('" ++ c.query ++ "')"]).flatMap outside) = some level := by
    split
    · rfl
    · rw [List.flatMap_singleton, (neutral_match hc).level_eq]
  rw [hmatch, Option.bind_some, List.flatMap_map]
  exact level?_flatMap_congr (fun k hk => (level?_outside_clause hc hk).2) level

theorem balanced_render_iff :
    Balanced (outside c.render) ↔
      Balanced (c.filterClauses.flatMap fun k => k.field.toList) := by
  rw [balanced_iff_level?, balanced_iff_level?, level?_outside_render hc]

/-- Each clause of a condition is balanced where the field of each filter is. -/
theorem balanced_clauses_iff :
    (∀ clause ∈ c.clauses, Balanced (outside clause)) ↔
      ∀ k ∈ c.filterClauses, Balanced k.field.toList := by
  have hclause : ∀ k ∈ c.filterClauses,
      (Balanced (outside k.render) ↔ Balanced k.field.toList) := by
    intro k hk
    rw [balanced_iff_level?, balanced_iff_level?, (level?_outside_clause hc hk).2]
  rw [clauses, c.map_render_filters]
  constructor
  · intro h k hk
    exact (hclause k hk).1 (h _ (List.mem_append_right _ (List.mem_map_of_mem hk)))
  · intro h clause hmem
    rcases List.mem_append.1 hmem with hmem | hmem
    · split at hmem
      · cases hmem
      · rw [List.mem_singleton.1 hmem]
        exact balanced_iff_level?.2 ((neutral_match hc).level_eq 0)
    · obtain ⟨k, hk, rfl⟩ := List.mem_map.1 hmem
      exact (hclause k hk).2 (h k hk)

end Checked

/-! ## 4. Edits -/

namespace Edit

/-- The field that an edit filters by, as it was given. -/
def filtered? : Edit → Option String
  | compare field _ _ | range field _ _ | oneOf _ field _ => some field
  | search .. | searchAll .. | clear => none

/-- The field of what an edit adds is the field that it filters by, without the characters
that may not stand in fields. -/
theorem field_clause?_of_check? {e : Edit} {p : Predicate} (h : e.check? = some (.ok p)) :
    p.clause?.map Clause.field
      = e.filtered?.map fun field => String.ofList (field.toList.filter Name.isFieldChar) := by
  have hclean : ∀ {field name : String}, Name.field field = .ok name →
      some name = some (String.ofList (field.toList.filter Name.isFieldChar)) :=
    fun hname => congrArg some (Name.field_eq_ok_iff.1 hname).2
  cases e with
  | compare field op operand =>
    obtain ⟨name, hname, ⟨v, -, -, rfl⟩ | ⟨negated, vs, -, -, rfl⟩⟩ :=
      Predicate.of_compare (Option.some.inj h) <;> exact hclean hname
  | range field low high =>
    obtain ⟨name, hname, -, rfl⟩ := Predicate.of_range (Option.some.inj h)
    exact hclean hname
  | oneOf negated field values =>
    obtain ⟨name, hname, -, rfl⟩ := Predicate.of_oneOf (Option.some.inj h)
    exact hclean hname
  | search field terms anchoring =>
    obtain ⟨name, -, -, rfl⟩ := Predicate.of_search (Option.some.inj h)
    rfl
  | searchAll terms anchoring =>
    obtain ⟨-, rfl⟩ := Predicate.of_searchAll (Option.some.inj h)
    rfl
  | clear => cases h

theorem accepted?_eq_some_iff {e : Edit} {p : Predicate} :
    e.accepted? = some p ↔ e.check? = some (.ok p) := by
  unfold accepted?
  cases e.check? with
  | none => simp
  | some checked => cases checked <;> simp [Except.toOption]

end Edit

/-- The fields of the filters that the edits behind the last removal have added, as they were
given. -/
def filteredFields (edits : List Edit) : List String :=
  ((edits.rtakeWhile (· ≠ .clear)).filter (·.accepted?.isSome)).filterMap Edit.filtered?

theorem map_field_filterClauses (edits : List Edit) :
    (ofEdits edits).filterClauses.map Clause.field
      = (filteredFields edits).map fun field =>
          String.ofList (field.toList.filter Name.isFieldChar) := by
  unfold filterClauses filteredFields
  rw [predicates_ofEdits, declared]
  induction edits.rtakeWhile (· ≠ .clear) with
  | nil => rfl
  | cons e es ih =>
    cases he : e.accepted? with
    | none => simpa [he] using ih
    | some p =>
      have hfield := Edit.field_clause?_of_check? (Edit.accepted?_eq_some_iff.1 he)
      rw [List.filterMap_cons_some he, List.filter_cons_of_pos (by simp [he])]
      cases hk : p.clause? with
      | none =>
        have hnone : e.filtered? = none := by simpa [hk] using hfield.symm
        rw [List.filterMap_cons_none hk, List.filterMap_cons_none hnone, ih]
      | some k =>
        rw [hk, Option.map_some] at hfield
        obtain ⟨field, hfiltered, hclean⟩ := Option.map_eq_some_iff.1 hfield.symm
        rw [List.filterMap_cons_some hk, List.filterMap_cons_some hfiltered, List.map_cons,
          List.map_cons, ih, hclean]

/-- **The parentheses of a condition are balanced exactly where those of the fields of its
filters are**, after every run of edits, and its clauses are balanced one by one exactly
where these fields are. The fields are taken as they were given. What is bound, what is
searched for and the fields that are searched make no difference. -/
theorem balanced_of_edits (edits : List Edit) :
    (scan (ofEdits edits).render).mode = .outside ∧
    (Balanced (outside (ofEdits edits).render) ↔
      Balanced ((filteredFields edits).flatMap String.toList)) ∧
    ((∀ clause ∈ (ofEdits edits).clauses, Balanced (outside clause)) ↔
      ∀ field ∈ filteredFields edits, Balanced field.toList) := by
  have hc := (built_ofEdits edits).wellFormed
  have hfields := map_field_filterClauses edits
  have hfilter : ∀ cs : List Char, Balanced (cs.filter Name.isFieldChar) ↔ Balanced cs := by
    intro cs
    rw [balanced_iff_level?, balanced_iff_level?, level?_filter (by decide) (by decide)]
  refine ⟨(holds_render hc).scan_eq.1, ?_, ?_⟩
  · have hnames : ((ofEdits edits).filterClauses.flatMap fun k => k.field.toList)
        = ((filteredFields edits).flatMap String.toList).filter Name.isFieldChar := by
      rw [← List.flatMap_map, hfields, List.flatMap_map, List.filter_flatMap]
      simp
    rw [balanced_render_iff hc, hnames, hfilter]
  · have hmap : (∀ k ∈ (ofEdits edits).filterClauses, Balanced k.field.toList) ↔
        ∀ name ∈ (ofEdits edits).filterClauses.map Clause.field, Balanced name.toList := by
      simp
    rw [balanced_clauses_iff hc, hmap, hfields, List.forall_mem_map]
    simp only [String.toList_ofList, hfilter]

/-- A field with a closing parenthesis closes one that is not its own, and two fields that
are balanced only together take the conditions between them into one. -/
theorem not_balanced_of_edits :
    let closing : List Edit := [.compare "price)" .eq (.scalar (.int 1))]
    let around : List Edit := [.compare "(price" .eq (.scalar (.int 1)),
      .compare "id" .eq (.scalar (.text ")")), .compare "stock)" .gt (.scalar (.int 0))]
    (ofEdits closing).render = "price) = 1" ∧ ¬Balanced (outside (ofEdits closing).render) ∧
      (ofEdits around).render = "(price = 1 AND id = '\\\\)' AND stock) > 0" ∧
      Balanced (outside (ofEdits around).render) ∧
      ¬∀ clause ∈ (ofEdits around).clauses, Balanced (outside clause) := by
  intro closing around
  refine ⟨by decide +kernel, by decide +kernel, by decide +kernel, by decide +kernel, ?_⟩
  intro hall
  exact absurd (hall "(price = 1" (by decide +kernel)) (by decide +kernel)

end Condition

end SearchSql
