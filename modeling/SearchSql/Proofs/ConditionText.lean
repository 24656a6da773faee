/-
SearchSql.Proofs.ConditionText — the text of a condition, clause by clause.

A predicate that passed its check has a clean field name, and at least one
value or term where it lists them, so its text is not empty. Then the text
behind `WHERE` is a list of clauses with ` AND ` between them: one `MATCH` for
all searches, if there are any, and one clause for each filter, in order.

* `Predicate.compare_of_field` and its siblings — what a check comes to once its field
  is clean; `Predicate.of_compare` and its siblings — what it lets through.
* `Predicate.set?` — the set that a comparison stands for.
* `Condition.render_eq` — the condition as its clauses.
* `Condition.render_eq_empty_iff` — only a condition without predicates has no
  text.
-/
import SearchSql.Condition
import SearchSql.Proofs.CheckedNames

namespace SearchSql

/-! ## 1. Checked predicates -/

namespace Predicate

/-- The set that an operator stands for with its operand, if it stands for one: whether
the values are to be left out, and the values. -/
def set? : Operator → Operand → Option (Bool × List Value)
  | .isIn, .scalar v => some (false, [v])
  | .eq, .list vs | .isIn, .list vs => some (false, vs)
  | .ne, .list vs => some (true, vs)
  | _, _ => none

section Named

variable {field name : String} (h : Name.field field = .ok name)
include h

/-- What the check of a comparison comes to once the field has a clean name. -/
theorem compare_of_field (op : Operator) (operand : Operand) :
    compare field op operand = match set? op operand with
      | some (negated, vs) =>
        if vs.isEmpty then
          .error (.emptyValues (op.symbol ++ " list for '" ++ name ++ "' is empty"))
        else .ok (.membership name vs negated)
      | none => match operand with
        | .scalar v => .ok (.comparison name op v)
        | .list _ => .error (.invalidOperator name op) := by
  rw [compare, h]
  cases operand <;> cases op <;> rfl

theorem range_of_field (low high : Value) :
    range field low high = if low.order? high == some .lt then .ok (.between name low high)
      else .error (.invalidRange name low.literal high.literal) := by
  rw [range, h]
  rfl

theorem oneOf_of_field (negated : Bool) (values : List Value) :
    oneOf negated field values =
      if values.isEmpty then .error (.emptyValues ("IN list for '" ++ name ++ "' is empty"))
      else .ok (.membership name values negated) := by
  rw [oneOf, h]
  rfl

theorem search_of_field (terms : List String) (a : Anchoring) :
    search field terms a =
      if terms.isEmpty then .error (.emptyValues ("no full-text terms for '" ++ name ++ "'"))
      else .ok (.fullText (some name) terms a) := by
  rw [search, h]
  rfl

end Named

section Passed

variable {field : String} {p : Predicate}

/-- What is stored of a comparison that passes its check: a value or a set. -/
theorem of_compare {op : Operator} {operand : Operand} (h : compare field op operand = .ok p) :
    ∃ name, Name.field field = .ok name ∧
      ((∃ v, operand = .scalar v ∧ op ≠ .isIn ∧ p = .comparison name op v) ∨
        ∃ negated vs, set? op operand = some (negated, vs) ∧ vs ≠ [] ∧
          p = .membership name vs negated) := by
  obtain ⟨name, hname, -⟩ := bind_eq_ok_iff.1 h
  refine ⟨name, hname, ?_⟩
  rw [compare_of_field hname] at h
  split at h
  · next negated vs hset =>
    obtain ⟨hvs, rfl⟩ := unless_eq_ok_iff.1 h
    exact .inr ⟨negated, vs, hset, by simpa using hvs, rfl⟩
  · next hset =>
    cases operand with
    | scalar v =>
      cases h
      refine .inl ⟨v, rfl, ?_, rfl⟩
      rintro rfl
      cases hset
    | list vs => cases h

theorem of_range {low high : Value} (h : range field low high = .ok p) :
    ∃ name, Name.field field = .ok name ∧ low.order? high = some .lt ∧
      p = .between name low high := by
  obtain ⟨name, hname, -⟩ := bind_eq_ok_iff.1 h
  rw [range_of_field hname] at h
  split at h
  · next hlt => exact ⟨name, hname, beq_iff_eq.1 hlt, (Except.ok.inj h).symm⟩
  · cases h

theorem of_oneOf {negated : Bool} {values : List Value} (h : oneOf negated field values = .ok p) :
    ∃ name, Name.field field = .ok name ∧ values ≠ [] ∧ p = .membership name values negated := by
  obtain ⟨name, hname, -⟩ := bind_eq_ok_iff.1 h
  rw [oneOf_of_field hname] at h
  obtain ⟨hvalues, rfl⟩ := unless_eq_ok_iff.1 h
  exact ⟨name, hname, by simpa using hvalues, rfl⟩

theorem of_search {terms : List String} {a : Anchoring} (h : search field terms a = .ok p) :
    ∃ name, Name.field field = .ok name ∧ terms ≠ [] ∧ p = .fullText (some name) terms a := by
  obtain ⟨name, hname, -⟩ := bind_eq_ok_iff.1 h
  rw [search_of_field hname] at h
  obtain ⟨hterms, rfl⟩ := unless_eq_ok_iff.1 h
  exact ⟨name, hname, by simpa using hterms, rfl⟩

theorem of_searchAll {terms : List String} {a : Anchoring} (h : searchAll terms a = .ok p) :
    terms ≠ [] ∧ p = .fullText none terms a := by
  obtain ⟨hterms, rfl⟩ := unless_eq_ok_iff.1 h
  exact ⟨by simpa using hterms, rfl⟩

end Passed

/-- What the checks establish of a predicate. -/
def WellFormed : Predicate → Prop
  | .comparison field op _ => Name.IsField field ∧ op ≠ .isIn
  | .between field low high => Name.IsField field ∧ low.order? high = some .lt
  | .membership field values _ => Name.IsField field ∧ values ≠ []
  | .fullText field terms _ => (∀ name ∈ field, Name.IsField name) ∧ terms ≠ []

theorem wellFormed_compare {field : String} {op : Operator} {operand : Operand} {p : Predicate}
    (h : compare field op operand = .ok p) : p.WellFormed := by
  obtain ⟨name, hname, ⟨v, -, hop, rfl⟩ | ⟨negated, vs, -, hvs, rfl⟩⟩ := of_compare h
  · exact ⟨Name.isField_of_field hname, hop⟩
  · exact ⟨Name.isField_of_field hname, hvs⟩

theorem wellFormed_range {field : String} {low high : Value} {p : Predicate}
    (h : range field low high = .ok p) : p.WellFormed := by
  obtain ⟨name, hname, hlt, rfl⟩ := of_range h
  exact ⟨Name.isField_of_field hname, hlt⟩

theorem wellFormed_oneOf {negated : Bool} {field : String} {values : List Value} {p : Predicate}
    (h : oneOf negated field values = .ok p) : p.WellFormed := by
  obtain ⟨name, hname, hvalues, rfl⟩ := of_oneOf h
  exact ⟨Name.isField_of_field hname, hvalues⟩

theorem wellFormed_search {field : String} {terms : List String} {a : Anchoring} {p : Predicate}
    (h : search field terms a = .ok p) : p.WellFormed := by
  obtain ⟨name, hname, hterms, rfl⟩ := of_search h
  refine ⟨fun other hother => ?_, hterms⟩
  cases hother
  exact Name.isField_of_field hname

theorem wellFormed_searchAll {terms : List String} {a : Anchoring} {p : Predicate}
    (h : searchAll terms a = .ok p) : p.WellFormed := by
  obtain ⟨hterms, rfl⟩ := of_searchAll h
  exact ⟨by simp, hterms⟩

theorem render_ne_empty {p : Predicate} (h : p.WellFormed) : p.render ≠ "" := by
  intro hp
  cases p with
  | comparison field op value =>
    simp [render, h.1.ne_empty] at hp
  | between field low high =>
    simp [render, h.1.ne_empty] at hp
  | membership field values negated =>
    simp [render, h.1.ne_empty] at hp
  | fullText field terms anchoring =>
    obtain ⟨term, rest, rfl⟩ := List.exists_cons_of_ne_nil h.2
    cases field with
    | none => cases rest <;> simp [render, Phrase.render] at hp
    | some name => simp [render] at hp

end Predicate

/-! ## 2. Clauses -/

namespace Condition

/-- The filters, in order. -/
def filters (c : Condition) : List Predicate :=
  c.predicates.filter (!·.isFullText)

/-- The full-text searches, in order. -/
def searches (c : Condition) : List Predicate :=
  c.predicates.filter (·.isFullText)

/-- The full-text query: the searches with a space between them. -/
def query (c : Condition) : String :=
  " ".intercalate (c.searches.map Predicate.render)

/-- The one `MATCH`, if there are searches, and the filters. -/
def clauses (c : Condition) : List String :=
  (if c.searches = [] then [] else ["MATCH('" ++ c.query ++ "')"])
    ++ c.filters.map Predicate.render

theorem append_intercalate (separator fragment : String) {texts : List String}
    (h : ∀ text ∈ texts, text ≠ "") :
    append separator (separator.intercalate texts) fragment =
      separator.intercalate (texts ++ [fragment]) := by
  cases texts with
  | nil => simp [append]
  | cons text rest =>
    have hne : separator.intercalate (text :: rest) ≠ "" := by
      have := h text List.mem_cons_self
      cases rest <;> simp [this]
    rw [append, if_neg (by simpa using hne), String.intercalate_append_of_ne_nil (by simp) (by simp),
      String.intercalate_singleton]

/-- Gathering goes on from any texts gathered before. -/
theorem foldl_gather : ∀ (ps : List Predicate) (fs ss : List String),
    (∀ p ∈ ps, p.render ≠ "") → (∀ f ∈ fs, f ≠ "") → (∀ s ∈ ss, s ≠ "") →
    ps.foldl gather (" AND ".intercalate fs, " ".intercalate ss)
      = (" AND ".intercalate (fs ++ (ps.filter (!·.isFullText)).map Predicate.render),
          " ".intercalate (ss ++ (ps.filter (·.isFullText)).map Predicate.render))
  | [], fs, ss, _, _, _ => by simp
  | p :: ps, fs, ss, hps, hfs, hss => by
      have hp := hps p List.mem_cons_self
      have hrest : ∀ q ∈ ps, q.render ≠ "" := fun q hq => hps q (List.mem_cons_of_mem p hq)
      rw [List.foldl_cons, gather]
      cases hk : p.isFullText with
      | true =>
        rw [if_pos rfl, append_intercalate _ _ hss, foldl_gather ps fs (ss ++ [p.render]) hrest hfs
          (by simpa [or_imp, forall_and] using ⟨hss, hp⟩)]
        simp [hk]
      | false =>
        rw [if_neg (by simp), append_intercalate _ _ hfs,
          foldl_gather ps (fs ++ [p.render]) ss hrest
            (by simpa [or_imp, forall_and] using ⟨hfs, hp⟩) hss]
        simp [hk]

theorem intercalate_eq_empty_iff (separator : String) {texts : List String}
    (h : ∀ text ∈ texts, text ≠ "") : separator.intercalate texts = "" ↔ texts = [] := by
  cases texts with
  | nil => simp
  | cons text rest =>
    have := h text List.mem_cons_self
    cases rest <;> simp [this]

theorem predicates_eq_nil_iff (c : Condition) :
    c.predicates = [] ↔ c.searches = [] ∧ c.filters = [] := by
  refine ⟨fun hnil => by simp [searches, filters, hnil], ?_⟩
  rintro ⟨hs, hf⟩
  rw [List.eq_nil_iff_forall_not_mem]
  intro p hp
  cases hk : p.isFullText with
  | true => exact List.filter_eq_nil_iff.1 hs p hp hk
  | false => exact List.filter_eq_nil_iff.1 hf p hp (by simp [hk])

variable {c : Condition} (h : ∀ p ∈ c.predicates, p.render ≠ "")
include h

theorem searchText_ne_empty : ∀ text ∈ c.searches.map Predicate.render, text ≠ "" := by
  intro text htext
  obtain ⟨p, hp, rfl⟩ := List.mem_map.1 htext
  exact h p (List.mem_filter.1 hp).1

theorem filterText_ne_empty : ∀ text ∈ c.filters.map Predicate.render, text ≠ "" := by
  intro text htext
  obtain ⟨p, hp, rfl⟩ := List.mem_map.1 htext
  exact h p (List.mem_filter.1 hp).1

theorem clause_ne_empty : ∀ text ∈ c.clauses, text ≠ "" := by
  intro text htext
  rcases List.mem_append.1 htext with htext | htext
  · split at htext
    · simp at htext
    · rw [List.mem_singleton] at htext
      simp [htext]
  · exact filterText_ne_empty h text htext

/-- The two texts that are gathered, each with its separator. -/
theorem parts_eq :
    c.parts = (" AND ".intercalate (c.filters.map Predicate.render),
      if c.searches = [] then "" else "MATCH('" ++ c.query ++ "')") := by
  have hfold := foldl_gather c.predicates [] [] h (by simp) (by simp)
  simp only [String.intercalate_nil, List.nil_append] at hfold
  have hquery : c.query.isEmpty = true ↔ c.searches = [] := by
    rw [String.isEmpty_iff, query, intercalate_eq_empty_iff _ (searchText_ne_empty h),
      List.map_eq_nil_iff]
  simp only [parts, hfold]
  change (_, if c.query.isEmpty = true then _ else _) = _
  simp only [hquery]
  rfl

/-- The text of a condition is its clauses with ` AND ` between them. -/
theorem render_eq : c.render = " AND ".intercalate c.clauses := by
  have hfilters : (" AND ".intercalate (c.filters.map Predicate.render)).isEmpty = true ↔
      c.filters = [] := by
    rw [String.isEmpty_iff, intercalate_eq_empty_iff _ (filterText_ne_empty h),
      List.map_eq_nil_iff]
  simp only [render, parts_eq h, hfilters, clauses]
  by_cases hs : c.searches = []
  · simp [hs]
  · have hmatch : ("MATCH('" ++ c.query ++ "')").isEmpty = false := by simp
    simp only [if_neg hs, hmatch, Bool.false_eq_true, if_false]
    by_cases hf : c.filters = []
    · simp [hf]
    · rw [if_neg hf, String.intercalate_append_of_ne_nil (by simp) (by simpa using hf),
        String.intercalate_singleton]

/-- Where there are searches, their `MATCH` comes first. -/
theorem render_of_searches (hs : c.searches ≠ []) :
    c.render = "MATCH('" ++ c.query ++ "')" ++ (if c.filters = [] then ""
      else " AND " ++ " AND ".intercalate (c.filters.map Predicate.render)) := by
  rw [render_eq h, clauses, if_neg hs]
  by_cases hf : c.filters = []
  · simp [hf]
  · rw [if_neg hf, String.intercalate_append_of_ne_nil (by simp) (by simpa using hf),
      String.intercalate_singleton, String.append_assoc]

/-- Only a condition without predicates has no text. -/
theorem render_eq_empty_iff : c.render = "" ↔ c.predicates = [] := by
  rw [render_eq h, intercalate_eq_empty_iff _ (clause_ne_empty h), clauses,
    List.append_eq_nil_iff, List.map_eq_nil_iff, c.predicates_eq_nil_iff]
  by_cases hs : c.searches = [] <;> simp [hs]

end Condition

end SearchSql
