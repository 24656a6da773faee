/-
SearchSql.Proofs.PredicateRules — which predicates the checks let through, and how
they refuse the others.

A field that is named is cleaned before anything else is looked at. Then a list has
to have an element, the bounds of a range have to increase, and an operator that
orders values takes no list. A comparison may stand for a set of values. There are
two ways to declare a set, and they store the same.

* `Predicate.Rules` — what the checks come to once a field has a clean name.
* `Condition.Edit.call_eq` — a builder edits its condition, or changes nothing.
* `Condition.predicates_of_rules` — the rules for every field, and what they come to
  over every run of edits.
-/
import SearchSql.Proofs.CallChanges
import SearchSql.Proofs.ConditionEdits

namespace SearchSql

/-! ## 1. Rules -/

namespace Predicate

/-- What the checks come to for a field that is cleaned to `name`. -/
structure Rules (field name : String) : Prop where
  value : ∀ op v, op ≠ .isIn → compare field op (.scalar v) = .ok (.comparison name op v)
  /-- A comparison that stands for a set is stored as the set is. -/
  values : ∀ op operand negated vs, set? op operand = some (negated, vs) → vs ≠ [] →
    compare field op operand = .ok (.membership name vs negated) ∧
      oneOf negated field vs = .ok (.membership name vs negated)
  noValues : ∀ op operand negated, set? op operand = some (negated, []) →
    compare field op operand
        = .error (.emptyValues (op.symbol ++ " list for '" ++ name ++ "' is empty")) ∧
      oneOf negated field [] = .error (.emptyValues ("IN list for '" ++ name ++ "' is empty"))
  /-- The operators that order values refuse every list, the empty one too. -/
  ordering : ∀ op ∈ [.gt, .lt, .gte, .lte], ∀ vs,
    compare field op (.list vs) = .error (.invalidOperator name op)
  bounds : ∀ low high, low.order? high = some .lt →
    range field low high = .ok (.between name low high)
  noBounds : ∀ low high, low.order? high ≠ some .lt →
    range field low high = .error (.invalidRange name low.literal high.literal)
  terms : ∀ terms a, terms ≠ [] → search field terms a = .ok (.fullText (some name) terms a)
  noTerms : ∀ a,
    search field [] a = .error (.emptyValues ("no full-text terms for '" ++ name ++ "'"))

theorem rules_of_field {field name : String} (h : Name.field field = .ok name) :
    Rules field name where
  value op v hop := by
    have hset : set? op (.scalar v) = none := by
      cases op with
      | isIn => exact absurd rfl hop
      | _ => rfl
    rw [compare_of_field h, hset]
  values op operand negated vs hset hvs := by
    have hne : vs.isEmpty = false := by simpa using hvs
    rw [compare_of_field h, oneOf_of_field h, hset]
    simp only [hne, Bool.false_eq_true, if_false, and_self]
  noValues op operand negated hset := by
    rw [compare_of_field h, oneOf_of_field h, hset]
    exact ⟨rfl, rfl⟩
  ordering op hop vs := by
    have hset : set? op (.list vs) = none := by
      simp only [List.mem_cons, List.not_mem_nil, or_false] at hop
      rcases hop with rfl | rfl | rfl | rfl <;> rfl
    rw [compare_of_field h, hset]
  bounds low high horder := by
    rw [range_of_field h, if_pos (by simpa using horder)]
  noBounds low high horder := by
    rw [range_of_field h, if_neg (by simpa using horder)]
  terms terms a hterms := by
    rw [search_of_field h, if_neg (by simpa using hterms)]
  noTerms a := search_of_field h [] a

end Predicate

namespace Condition

/-! ## 2. Edits of a builder -/

namespace Edit

/-- The field that an edit names. -/
def field? : Edit → Option String
  | compare field _ _ | range field _ _ | oneOf _ field _ | search field _ _ => some field
  | searchAll .. | clear => none

/-- The call that adds what an edit adds. -/
def call? : Edit → Option Call
  | compare field op operand => some (.filter field op operand)
  | range field low high => some (.between field low high)
  | oneOf negated field values => some (.oneOf negated field values)
  | search field terms anchoring => some (.search field terms anchoring)
  | searchAll terms anchoring => some (.searchAll terms anchoring)
  | clear => none

/-- An edit that names a field starts by cleaning it. -/
theorem check?_of_refused {e : Edit} {field : String} {err : Error} (he : e.field? = some field)
    (h : Name.field field = .error err) : e.check? = some (.error err) := by
  cases e with
  | compare _ op operand =>
    cases he
    rw [check?, Predicate.compare, h]
    rfl
  | range _ low high =>
    cases he
    rw [check?, Predicate.range, h]
    rfl
  | oneOf negated _ values =>
    cases he
    rw [check?, Predicate.oneOf, h]
    rfl
  | search _ terms anchoring =>
    cases he
    rw [check?, Predicate.search, h]
    rfl
  | searchAll | clear => cases he

/-- Behind the cleaning of its field no edit complains of a field. -/
theorem check?_ne_invalidField {e : Edit} {s : String}
    (he : ∀ field ∈ e.field?, ∃ name, Name.field field = .ok name) :
    e.check? ≠ some (.error (.invalidField s)) := by
  cases e with
  | compare field op operand =>
    obtain ⟨name, hname⟩ := he field rfl
    rw [check?, Predicate.compare_of_field hname]
    split
    · split <;> simp
    · cases operand <;> simp
  | range field low high =>
    obtain ⟨name, hname⟩ := he field rfl
    rw [check?, Predicate.range_of_field hname]
    split <;> simp
  | oneOf negated field values =>
    obtain ⟨name, hname⟩ := he field rfl
    rw [check?, Predicate.oneOf_of_field hname]
    split <;> simp
  | search field terms anchoring =>
    obtain ⟨name, hname⟩ := he field rfl
    rw [check?, Predicate.search_of_field hname]
    split <;> simp
  | searchAll terms anchoring =>
    rw [check?, Predicate.searchAll]
    split <;> simp
  | clear => simp [check?]

/-- The call of an edit makes the same check. -/
theorem check_of_call? {e : Edit} {call : Call} (h : e.call? = some call) :
    ∃ checked, e.check? = some checked ∧ call.check = checked.map .predicate := by
  cases e with
  | compare | range | oneOf | search | searchAll =>
    cases h
    exact ⟨_, rfl, rfl⟩
  | clear => cases h

/-- An edit that adds and the call of a builder: where the check passes, both add the
predicate behind the others, and where it refuses, both change nothing. -/
theorem call_eq {e : Edit} {call : Call} (h : e.call? = some call) (b : Builder) :
    (∃ p, e.check? = some (.ok p) ∧
        (e.apply b.condition).predicates = b.condition.predicates ++ [p] ∧
        b.call call = (.ok (), { b with condition := e.apply b.condition })) ∨
      ∃ err, e.check? = some (.error err) ∧ e.apply b.condition = b.condition ∧
        b.call call = (.error err, b) := by
  obtain ⟨checked, hcheck, hcall⟩ := check_of_call? h
  cases checked with
  | ok p =>
    have happly : e.apply b.condition = b.condition.add p := by rw [apply, hcheck]
    refine .inl ⟨p, hcheck, by rw [happly]; rfl, ?_⟩
    rw [Builder.call_of_check_ok hcall, happly]
    rfl
  | error err =>
    refine .inr ⟨err, hcheck, by rw [apply, hcheck], ?_⟩
    exact Builder.call_of_check_error hcall b

/-- The only complaint about a field is that nothing is left of it, and it comes before
all others. -/
theorem check?_eq_invalidField_iff {e : Edit} {field : String} :
    e.check? = some (.error (.invalidField field)) ↔
      e.field? = some field ∧ ∀ c ∈ field.toList, Name.isFieldChar c = false := by
  constructor
  · intro h
    by_cases hclean : ∀ s ∈ e.field?, ∃ name, Name.field s = .ok name
    · exact absurd h (check?_ne_invalidField hclean)
    · push Not at hclean
      obtain ⟨s, hs, hrefused⟩ := hclean
      cases hname : Name.field s with
      | ok name => exact absurd hname (hrefused name)
      | error err =>
        obtain ⟨hchars, rfl⟩ := Name.field_eq_error_iff.1 hname
        rw [check?_of_refused hs hname] at h
        cases h
        exact ⟨hs, hchars⟩
  · rintro ⟨he, hchars⟩
    exact check?_of_refused he (Name.field_eq_error_iff.2 ⟨hchars, rfl⟩)

end Edit

/-! ## 3. All conditions -/

/-- **What is stored of a predicate, and when it is refused.** An edit that adds puts one
predicate behind the others or changes nothing, whatever was there before. A field of
which nothing is left is the first thing that is refused, and any other field follows the
rules of its clean name. So no condition ever holds a list without an element, a
membership that is written as a comparison, or a field with other characters than those
of fields. -/
theorem predicates_of_rules :
    (∀ (e : Edit) (call : Call), e.call? = some call → ∀ b : Builder,
      (∃ p, e.check? = some (.ok p) ∧
          (e.apply b.condition).predicates = b.condition.predicates ++ [p] ∧
          b.call call = (.ok (), { b with condition := e.apply b.condition })) ∨
        ∃ err, e.check? = some (.error err) ∧ e.apply b.condition = b.condition ∧
          b.call call = (.error err, b)) ∧
    (∀ (e : Edit) (field : String), e.check? = some (.error (.invalidField field)) ↔
      e.field? = some field ∧ ∀ c ∈ field.toList, Name.isFieldChar c = false) ∧
    (∀ field : String, (∃ c ∈ field.toList, Name.isFieldChar c = true) →
      ∃ name, Name.field field = .ok name ∧ Predicate.Rules field name) ∧
    (∀ terms a, Predicate.searchAll terms a =
      if terms = [] then .error (.emptyValues "no full-text terms for '*'")
      else .ok (.fullText none terms a)) ∧
    ∀ edits : List Edit, ∀ p ∈ (ofEdits edits).predicates, match p with
      | .comparison field op _ => Name.IsField field ∧ op ≠ .isIn
      | .between field _ _ => Name.IsField field
      | .membership field values _ => Name.IsField field ∧ values ≠ []
      | .fullText field terms _ => (∀ name ∈ field, Name.IsField name) ∧ terms ≠ [] := by
  refine ⟨fun e call he b => Edit.call_eq he b, fun e field => Edit.check?_eq_invalidField_iff,
    fun field hfield => ?_, fun terms a => ?_, fun edits p hp => ?_⟩
  · obtain ⟨c, hc, hkept⟩ := hfield
    cases hname : Name.field field with
    | ok name => exact ⟨name, rfl, Predicate.rules_of_field hname⟩
    | error err =>
      have hnone := (Name.field_eq_error_iff.1 hname).1 c hc
      simp [hkept] at hnone
  · simp [Predicate.searchAll]
  · have hwf := (built_ofEdits edits).wellFormed p hp
    cases p with
    | between field low high => exact hwf.1
    | comparison | membership | fullText => exact hwf

/-- A membership in one value and a list of one store the same, behind each other and
around a refusal; of a field without letters nothing else is looked at. -/
theorem predicates_of_rules_of_routes :
    let member : Edit := .compare "ta-gs" .isIn (.scalar (.text "a"))
    let ordered : Edit := .compare "tags" .lt (.list [])
    let listed : Edit := .oneOf false "tags!" [.text "a"]
    let stored : Predicate := .membership "tags" [.text "a"] false
    (ofEdits [member, ordered, listed]).predicates = [stored, stored] ∧ Name.IsField "tags" ∧
      (∃ name, Name.field "ta-gs" = .ok name ∧ Predicate.Rules "ta-gs" name) ∧
      (∀ b : Builder, ∃ err, ordered.check? = some (.error err) ∧
        b.call (.filter "tags" .lt (.list [])) = (.error err, b)) ∧
      Edit.check? (.compare "4-2" .lt (.list [])) = some (.error (.invalidField "4-2")) := by
  intro member ordered listed stored
  obtain ⟨hcall, hrefused, hrules, -, hheld⟩ := predicates_of_rules
  have hstored : (ofEdits [member, ordered, listed]).predicates = [stored, stored] := by
    decide +kernel
  have hmember := hheld [member, ordered, listed] stored (by simp [hstored])
  refine ⟨hstored, hmember.1, hrules "ta-gs" ⟨'t', by simp, by decide⟩, fun b => ?_,
    (hrefused _ "4-2").2 ⟨rfl, by simp; decide⟩⟩
  rcases hcall ordered _ rfl b with ⟨p, hp, -, -⟩ | ⟨err, herr, -, hb⟩
  · have hrefusal : ordered.check? = some (.error (.invalidOperator "tags" .lt)) := by
      decide +kernel
    cases hrefusal.symm.trans hp
  · exact ⟨err, herr, hb⟩

end Condition

end SearchSql
