/-
SearchSql.Proofs.ConditionEdits — the text of a condition after any edits.

A condition is edited by adding predicates, each of which is checked first, and by
removing all of them. The text is gathered in one pass that takes a fragment for the
first where nothing was gathered before. That is right because no checked predicate
has an empty text.

* `Condition.predicates_ofEdits` — what a condition holds after a run of edits.
* `Condition.built_ofEdits` — all of it was checked.
* `Condition.render_of_edits` — the text as a function of its fragments.
-/
import Mathlib.Data.List.DropRight
import SearchSql.Proofs.FilterClauses

namespace SearchSql.Condition

/-! ## 1. Edits -/

/-- One edit of a condition: a predicate to add, or the removal of all. -/
inductive Edit
  | compare (field : String) (op : Operator) (operand : Operand)
  | range (field : String) (low high : Value)
  | oneOf (negated : Bool) (field : String) (values : List Value)
  | search (field : String) (terms : List String) (anchoring : Anchoring)
  | searchAll (terms : List String) (anchoring : Anchoring)
  | clear
deriving DecidableEq

namespace Edit

/-- The check that an edit starts with. Removing asks for none. -/
def check? : Edit → Option (Except Error Predicate)
  | compare field op operand => some (Predicate.compare field op operand)
  | range field low high => some (Predicate.range field low high)
  | oneOf negated field values => some (Predicate.oneOf negated field values)
  | search field terms anchoring => some (Predicate.search field terms anchoring)
  | searchAll terms anchoring => some (Predicate.searchAll terms anchoring)
  | clear => none

/-- The condition after an edit. A refused predicate leaves it as it was. -/
def apply (c : Condition) (e : Edit) : Condition :=
  match e.check? with
  | some (.ok p) => c.add p
  | some (.error _) => c
  | none => .empty

/-- The predicate that an edit adds, if it does. -/
def accepted? (e : Edit) : Option Predicate :=
  e.check?.bind Except.toOption

theorem check?_eq_none_iff {e : Edit} : e.check? = none ↔ e = .clear := by
  cases e <;> simp [check?]

theorem checked_of_check? {e : Edit} {p : Predicate} (h : e.check? = some (.ok p)) :
    p.Checked := by
  cases e with
  | compare field op operand => exact .compare (Option.some.inj h)
  | range field low high => exact .range (Option.some.inj h)
  | oneOf negated field values => exact .oneOf (Option.some.inj h)
  | search field terms anchoring => exact .search (Option.some.inj h)
  | searchAll terms anchoring => exact .searchAll (Option.some.inj h)
  | clear => cases h

/-- What an edit does to the predicates. -/
theorem predicates_apply (c : Condition) (e : Edit) :
    (e.apply c).predicates = if e = .clear then [] else c.predicates ++ e.accepted?.toList := by
  rw [apply, accepted?]
  cases h : e.check? with
  | none =>
    rw [if_pos (check?_eq_none_iff.1 h)]
    rfl
  | some checked =>
    have hclear : e ≠ .clear := by
      rintro rfl
      cases h
    rw [if_neg hclear]
    cases checked with
    | ok p => rfl
    | error err => exact (List.append_nil _).symm

/-- An edit adds nothing that was not checked. -/
theorem built_apply {c : Condition} (h : c.Built) (e : Edit) : (e.apply c).Built := by
  rw [apply]
  cases he : e.check? with
  | none => exact .empty
  | some checked =>
    cases checked with
    | ok p => exact .add h (checked_of_check? he)
    | error err => exact h

end Edit

/-! ## 2. Runs of edits -/

/-- The condition after a run of edits. -/
def ofEdits (edits : List Edit) : Condition :=
  edits.foldl Edit.apply .empty

theorem ofEdits_concat (edits : List Edit) (e : Edit) :
    ofEdits (edits ++ [e]) = e.apply (ofEdits edits) := by
  simp [ofEdits]

/-- What the edits behind the last removal have added, in order. -/
def declared (edits : List Edit) : List Predicate :=
  (edits.rtakeWhile (· ≠ .clear)).filterMap Edit.accepted?

theorem predicates_ofEdits (edits : List Edit) :
    (ofEdits edits).predicates = declared edits := by
  induction edits using List.reverseRecOn with
  | nil => rfl
  | append_singleton edits e ih =>
    rw [ofEdits_concat, Edit.predicates_apply, ih]
    by_cases he : e = .clear
    · rw [if_pos he, declared, List.rtakeWhile_concat_neg _ _ _ (by simp [he]),
        List.filterMap_nil]
    · rw [if_neg he, declared, declared, List.rtakeWhile_concat_pos _ _ _ (by simp [he]),
        List.filterMap_append]
      cases h : e.accepted? <;> simp [h]

theorem built_ofEdits (edits : List Edit) : (ofEdits edits).Built := by
  induction edits using List.reverseRecOn with
  | nil => exact .empty
  | append_singleton edits e ih =>
    rw [ofEdits_concat]
    exact Edit.built_apply ih e

/-! ## 3. Fragments -/

/-- The texts of predicates, those of the filters apart from those of the
searches. -/
structure Fragments where
  filters : List String
  searches : List String
deriving DecidableEq

namespace Fragments

/-- The texts of predicates, each kind in the order of declaration. -/
def ofPredicates (ps : List Predicate) : Fragments :=
  ⟨(ps.filter (!·.isFullText)).map Predicate.render,
    (ps.filter (·.isFullText)).map Predicate.render⟩

/-- The filters with ` AND ` between them. -/
def filterText (f : Fragments) : String :=
  " AND ".intercalate f.filters

/-- The searches in one `MATCH`, with a space between them. -/
def matchText (f : Fragments) : String :=
  if f.searches = [] then "" else "MATCH('" ++ " ".intercalate f.searches ++ "')"

/-- The `MATCH` and then the filters. -/
def text (f : Fragments) : String :=
  if f.searches = [] then f.filterText
  else if f.filters = [] then f.matchText
  else f.matchText ++ " AND " ++ f.filterText

theorem matchText_eq_empty_iff (f : Fragments) : f.matchText = "" ↔ f.searches = [] := by
  by_cases h : f.searches = [] <;> simp [matchText, h]

theorem filterText_eq_empty_iff {f : Fragments} (h : ∀ fragment ∈ f.filters, fragment ≠ "") :
    f.filterText = "" ↔ f.filters = [] :=
  intercalate_eq_empty_iff _ h

end Fragments

/-- A condition that has the text of its fragments: none of them is empty and none
is missing. -/
structure Shows (c : Condition) (f : Fragments) : Prop where
  ne_empty : ∀ fragment ∈ f.filters ++ f.searches, fragment ≠ ""
  length_add_length : f.filters.length + f.searches.length = c.size
  parts_eq : c.parts = (f.filterText, f.matchText)
  render_eq : c.render = f.text
  render_eq_empty_iff : c.render = "" ↔ c.isEmpty = true

/-- A condition of checked predicates has the text of their fragments. -/
theorem Built.shows {c : Condition} (h : c.Built) :
    c.Shows (Fragments.ofPredicates c.predicates) := by
  have hne : ∀ p ∈ c.predicates, p.render ≠ "" :=
    fun p hp => Predicate.render_ne_empty (h.wellFormed p hp)
  have hparts : c.parts = ((Fragments.ofPredicates c.predicates).filterText,
      (Fragments.ofPredicates c.predicates).matchText) := by
    have hsearches : c.searches.map Predicate.render = [] ↔ c.searches = [] :=
      List.map_eq_nil_iff
    rw [Condition.parts_eq hne]
    exact Prod.ext rfl (if_congr hsearches rfl rfl).symm
  refine ⟨?_, ?_, hparts, ?_, ?_⟩
  · intro fragment hfragment
    rcases List.mem_append.1 hfragment with hmem | hmem
    · exact filterText_ne_empty hne fragment hmem
    · exact searchText_ne_empty hne fragment hmem
  · have hlength := List.length_eq_length_filter_add (l := c.predicates) (·.isFullText)
    simp only [Fragments.ofPredicates, List.length_map, size]
    omega
  · have hfilters := Fragments.filterText_eq_empty_iff
      (f := Fragments.ofPredicates c.predicates) (filterText_ne_empty hne)
    simp only [render, hparts, String.isEmpty_iff, Fragments.matchText_eq_empty_iff, hfilters]
    rfl
  · rw [Condition.render_eq_empty_iff hne, isEmpty, List.isEmpty_iff]

/-- **The text of a condition is that of the fragments of its predicates**, after
every run of edits: each predicate that was added behind the last removal shows its
own fragment, and where the searches stand among the filters makes no difference. -/
theorem render_of_edits (edits : List Edit) :
    (ofEdits edits).predicates = declared edits ∧
    (ofEdits edits).Shows (Fragments.ofPredicates (declared edits)) ∧
    ∀ others : List Edit,
      Fragments.ofPredicates (declared others) = Fragments.ofPredicates (declared edits) →
      (ofEdits others).parts = (ofEdits edits).parts ∧
        (ofEdits others).render = (ofEdits edits).render := by
  have hshows : ∀ es, (ofEdits es).Shows (Fragments.ofPredicates (declared es)) := by
    intro es
    rw [← predicates_ofEdits]
    exact (built_ofEdits es).shows
  refine ⟨predicates_ofEdits edits, hshows edits, fun others hothers => ⟨?_, ?_⟩⟩
  · rw [(hshows others).parts_eq, (hshows edits).parts_eq, hothers]
  · rw [(hshows others).render_eq, (hshows edits).render_eq, hothers]

/-- A blank term without a field, behind a removal and around a filter that is
refused. -/
theorem render_of_edits_interleaved :
    let blank : Edit := .searchAll [" "] .exact
    let named : Edit := .search "title" ["a", "b"] .loose
    let filter : Edit := .compare "id" .gt (.scalar (.int 3))
    let refused : Edit := .range "price" (.int 2) (.int 2)
    let edits := [filter, .clear, blank, filter, refused, named]
    let others := [filter, blank, named]
    (ofEdits edits).Shows ⟨["id > 3"], ["\"^$\"", "title \"a\" | \"b\""]⟩ ∧
      (ofEdits edits).render = "MATCH('\"^$\" title \"a\" | \"b\"') AND id > 3" ∧
      (ofEdits others).render = (ofEdits edits).render := by
  intro blank named filter refused edits others
  have hfragments : Fragments.ofPredicates (declared edits)
      = ⟨["id > 3"], ["\"^$\"", "title \"a\" | \"b\""]⟩ := by decide +kernel
  have hothers : Fragments.ofPredicates (declared others)
      = Fragments.ofPredicates (declared edits) := by decide +kernel
  obtain ⟨-, hshows, hsame⟩ := render_of_edits edits
  exact ⟨hfragments ▸ hshows, by decide +kernel, (hsame others hothers).2⟩

end SearchSql.Condition
