/-
SearchSql.Proofs.RangeBounds — the bounds of a range, as they are compared and as
they are shown.

A range is refused unless its first bound is smaller. Two bounds that read as
finite numbers are compared as doubles, and any two other texts as they were
given. The statement shows more of a number than its double, and less of a text
than was given: all digits of the one, and the other without the white space at
its ends.

* `Value.numbers_or_texts_of_order?` — what it takes for one bound to be
  smaller.
* `Value.increasing_literal_iff` — what it takes for two literals to increase.
* `Predicate.increasing_of_range` — which accepted ranges of integers and texts
  increase as they are shown; `Predicate.not_increasing_of_range` has some that do
  not.
-/
import Mathlib
import SearchSql.Proofs.ConditionText
import SearchSql.Proofs.EscapeRoundTrip
import SearchSql.Proofs.NearestDoubles

namespace SearchSql

open SearchSql.Number SearchSql.Text

/-! ## 1. Bounds by their kinds -/

namespace Value

theorem order?_null (v : Value) : v.order? .null = none := by
  cases v <;> rfl

/-- Values that are not of one kind, or are doubles, are compared as numbers. -/
theorem order?_of_kinds {v w : Value} (hints : ¬∃ m n, v = .int m ∧ w = .int n)
    (htexts : ¬∃ s t, v = .text s ∧ w = .text t) : v.order? w = v.numberOrder? w := by
  by_cases hv : v = .null
  · rw [hv, order?, numberOrder?]
    rfl
  by_cases hw : w = .null
  · rw [hw, order?_null, numberOrder?]
    cases v.float? <;> rfl
  rw [order?]
  · exact hv
  · exact hw
  · exact fun m n hm hn => hints ⟨m, n, hm, hn⟩
  · exact fun s t hs ht => htexts ⟨s, t, hs, ht⟩

/-- Texts are compared as numbers if both are numbers, and else character by
character. -/
theorem order?_text (s t : String) : (text s).order? (text t) =
    if (text s).float?.isSome ∧ (text t).float?.isSome then (text s).numberOrder? (text t)
    else some (compare s t) := by
  rw [order?, numberOrder?]
  cases (text s).float? with
  | none => rfl
  | some x => cases (text t).float? <;> rfl

theorem numberOrder?_eq_some_iff {v w : Value} {o : Ordering} :
    v.numberOrder? w = some o ↔
      ∃ x y, v.float? = some x ∧ w.float? = some y ∧ x.order? y = some o := by
  rw [numberOrder?]
  cases v.float? with
  | none => simp
  | some x => cases w.float? <;> simp

/-! ## 2. Bounds as doubles -/

/-- The integers and the texts. -/
def IsIntOrText : Value → Prop
  | .int _ | .text _ => True
  | .null | .float _ => False

/-- The words that are read as doubles are no finite numbers. -/
theorem isFinite_of_readWord? {cs : List Char} {x : Double} (h : Double.readWord? cs = some x) :
    x.isFinite = false := by
  have hinfinite : ∀ negative, (Double.infinite negative).isFinite = false := by decide
  have hnan : Double.nan.isFinite = false := by decide
  simp only [Double.readWord?] at h
  split at h
  · cases h
    exact hinfinite _
  · split at h
    · cases h
      exact hnan
    · cases h

theorem natAbs_toInt_lt (n : Int64) : n.toInt.natAbs < Nat.pow 2 64 := by
  have hlow := n.le_toInt
  have hhigh := n.toInt_lt
  have hpow : Nat.pow 2 64 = 18446744073709551616 := rfl
  omega

/-- The double of an integer or a text is that of the numeral it shows. -/
theorem float?_eq {v : Value} (h : v.IsIntOrText) :
    v.float? = (v.numeral?.map Double.ofNumeral).filter Double.isFinite := by
  cases v with
  | null => exact h.elim
  | float x => exact h.elim
  | int n =>
    have hofInt := Double.ofInt_eq_ofNumeral (natAbs_toInt_lt n)
    have hfinite := Double.isFinite_ofInt (natAbs_toInt_lt n)
    rw [hofInt] at hfinite
    rw [float?, numeral?, hofInt, Option.map_some, Option.filter_some, if_pos hfinite]
  | text s =>
    rw [float?, numeral?, Double.read?]
    cases hword : Double.readWord? (trimChars s.toList) with
    | none => rfl
    | some x =>
      have hnumeral : readNumeral? (trimChars s.toList) = none := by
        by_contra hsome
        rw [Double.readWord?_of_readNumeral? (Option.isSome_iff_ne_none.2 hsome)] at hword
        cases hword
      simp [hnumeral, isFinite_of_readWord? hword]

theorem float?_eq_some_iff {v : Value} (h : v.IsIntOrText) {x : Double} :
    v.float? = some x ↔
      ∃ n, v.numeral? = some n ∧ Double.ofNumeral n = x ∧ x.isFinite = true := by
  rw [float?_eq h, Option.filter_eq_some_iff, Option.map_eq_some_iff]
  constructor
  · rintro ⟨⟨n, hn, rfl⟩, hfinite⟩
    exact ⟨n, hn, rfl, hfinite⟩
  · rintro ⟨n, hn, rfl, hfinite⟩
    exact ⟨⟨n, hn, rfl⟩, hfinite⟩

/-- Bounds that are compared as numbers are finite, and in the order of the numerals
they show. -/
theorem numerals_of_numberOrder? {v w : Value} (hv : v.IsIntOrText) (hw : w.IsIntOrText)
    (h : v.numberOrder? w = some .lt) :
    (v.float?.isSome ∧ w.float?.isSome) ∧
      ∃ m n, v.numeral? = some m ∧ w.numeral? = some n ∧ m.value < n.value := by
  obtain ⟨x, y, hx, hy, hlt⟩ := numberOrder?_eq_some_iff.1 h
  obtain ⟨m, hm, rfl, hxfinite⟩ := (float?_eq_some_iff hv).1 hx
  obtain ⟨n, hn, rfl, hyfinite⟩ := (float?_eq_some_iff hw).1 hy
  refine ⟨⟨?_, ?_⟩, m, n, hm, hn, Double.value_lt_of_order? hxfinite hyfinite hlt⟩
  · rw [hx, Option.isSome_some]
  · rw [hy, Option.isSome_some]

/-- **What it takes for a bound to be the smaller one.** Either both bounds are
finite numbers, and then their numerals increase; or they are texts that increase
as they were given. -/
theorem numbers_or_texts_of_order? {v w : Value} (hv : v.IsIntOrText) (hw : w.IsIntOrText)
    (h : v.order? w = some .lt) :
    ((v.float?.isSome ∧ w.float?.isSome) ∧
      ∃ m n, v.numeral? = some m ∧ w.numeral? = some n ∧ m.value < n.value) ∨
    (¬(v.float?.isSome ∧ w.float?.isSome) ∧ ∃ s t, v = .text s ∧ w = .text t ∧ s < t) := by
  by_cases hints : ∃ m n, v = .int m ∧ w = .int n
  · obtain ⟨m, n, rfl, rfl⟩ := hints
    -- Integers are compared exactly.
    have hlt : m.toInt < n.toInt := Int.compare_eq_lt.1 (Option.some.inj h)
    refine .inl ⟨⟨rfl, rfl⟩, _, _, rfl, rfl, ?_⟩
    rw [Numeral.value_ofInt, Numeral.value_ofInt]
    exact_mod_cast hlt
  by_cases htexts : ∃ s t, v = .text s ∧ w = .text t
  · obtain ⟨s, t, rfl, rfl⟩ := htexts
    rw [order?_text] at h
    split at h
    · exact .inl (numerals_of_numberOrder? hv hw h)
    · next hfinite =>
      exact .inr ⟨hfinite, s, t, rfl, rfl, compare_lt_iff_lt.1 (Option.some.inj h)⟩
  · rw [order?_of_kinds hints htexts] at h
    exact .inl (numerals_of_numberOrder? hv hw h)

end Value

/-! ## 3. Bounds as literals -/

/-- Two literals that increase: numbers, by their exact values, or quoted texts,
character by character. -/
inductive Increasing (low high : String) : Prop
  | numbers (m n : Numeral) (hlow : readNumeral? low.toList = some m)
      (hhigh : readNumeral? high.toList = some n) (h : m.value < n.value)
  | texts (s t : String) (hlow : low = Literal.quote s) (hhigh : high = Literal.quote t)
      (h : s < t)

namespace Literal

/-- What is quoted is no number. -/
theorem readNumeral?_quote (s : String) : readNumeral? (quote s).toList = none := by
  by_contra hsome
  obtain ⟨c, rest, hcs, hc⟩ := head_of_readNumeral? (Option.isSome_iff_ne_none.2 hsome)
  have htext : (quote s).toList = '\'' :: (escapeChars s.toList ++ ['\'']) := by simp [quote]
  rw [htext, takeSign_cons (by decide) (by decide)] at hcs
  obtain rfl := (List.cons.inj hcs).1
  rcases hc with hc | hc <;> exact absurd hc (by decide)

theorem quote_injective : Function.Injective quote := by
  intro s t h
  exact escape_injective (by simpa [quote] using h)

end Literal

namespace Value

/-- Of the integers and texts, only a text shows no numeral, and it is quoted. -/
theorem exists_text_of_numeral?_eq_none {v : Value} (hv : v.IsIntOrText)
    (hnone : v.numeral? = none) : ∃ s, v = .text s ∧ v.literal = Literal.quote (trim s) := by
  cases v with
  | null => exact hv.elim
  | float x => exact hv.elim
  | int n => cases hnone
  | text s => exact ⟨s, rfl, literal_of_numeral?_eq_none hnone⟩

/-- The literal of a value is read as the numeral that it shows. -/
theorem readNumeral?_literal_eq {v : Value} (hv : v.IsIntOrText) :
    readNumeral? v.literal.toList = v.numeral? := by
  cases hnumeral : v.numeral? with
  | some n => exact readNumeral?_literal hnumeral
  | none =>
    obtain ⟨s, -, hs⟩ := exists_text_of_numeral?_eq_none hv hnumeral
    rw [hs, Literal.readNumeral?_quote]

/-- **What it takes for two literals to increase**: both values show numerals that
do, or neither shows one and their texts do without the white space at their
ends. -/
theorem increasing_literal_iff {v w : Value} (hv : v.IsIntOrText) (hw : w.IsIntOrText) :
    Increasing v.literal w.literal ↔
      (∃ m n, v.numeral? = some m ∧ w.numeral? = some n ∧ m.value < n.value) ∨
      ∃ s t, v = .text s ∧ w = .text t ∧ v.numeral? = none ∧ w.numeral? = none ∧
        trim s < trim t := by
  constructor
  · rintro (⟨m, n, hlow, hhigh, hlt⟩ | ⟨s, t, hlow, hhigh, hlt⟩)
    · rw [readNumeral?_literal_eq hv] at hlow
      rw [readNumeral?_literal_eq hw] at hhigh
      exact .inl ⟨m, n, hlow, hhigh, hlt⟩
    · have hnone : v.numeral? = none := by
        rw [← readNumeral?_literal_eq hv, hlow, Literal.readNumeral?_quote]
      have hnone' : w.numeral? = none := by
        rw [← readNumeral?_literal_eq hw, hhigh, Literal.readNumeral?_quote]
      obtain ⟨s', hs', hlow'⟩ := exists_text_of_numeral?_eq_none hv hnone
      obtain ⟨t', ht', hhigh'⟩ := exists_text_of_numeral?_eq_none hw hnone'
      obtain rfl := Literal.quote_injective (hlow.symm.trans hlow')
      obtain rfl := Literal.quote_injective (hhigh.symm.trans hhigh')
      exact .inr ⟨s', t', hs', ht', hnone, hnone', hlt⟩
  · rintro (⟨m, n, hm, hn, hlt⟩ | ⟨s, t, rfl, rfl, hs, ht, hlt⟩)
    · exact .numbers m n (readNumeral?_literal hm) (readNumeral?_literal hn) hlt
    · exact .texts (trim s) (trim t) (literal_of_numeral?_eq_none hs)
        (literal_of_numeral?_eq_none ht) hlt

/-- Two bounds of which the statement shows what is compared: both are finite
numbers, or both are texts that are no numbers and have no white space at their
ends. -/
def ComparedAsShown (v w : Value) : Prop :=
  (v.float?.isSome ∧ w.float?.isSome) ∨
  ∃ s t, v = .text s ∧ w = .text t ∧ v.numeral? = none ∧ w.numeral? = none ∧
    trim s = s ∧ trim t = t

end Value

/-! ## 4. Ranges -/

namespace Predicate

/-- **An accepted range of integers and texts increases as it is shown where the
statement shows what is compared.** Everywhere else its bounds are texts that
increase as they were given, and they may or may not do so as they are shown: it
takes two numbers that increase, or two texts that are none and increase without
the white space at their ends. -/
theorem increasing_of_range {field : String} {low high : Value} {p : Predicate}
    (hlow : low.IsIntOrText) (hhigh : high.IsIntOrText) (h : range field low high = .ok p) :
    (low.ComparedAsShown high → Increasing low.literal high.literal) ∧
    (¬low.ComparedAsShown high → ∃ s t, low = .text s ∧ high = .text t ∧ s < t ∧
      (Increasing low.literal high.literal ↔
        (∃ m n, low.numeral? = some m ∧ high.numeral? = some n ∧ m.value < n.value) ∨
        (low.numeral? = none ∧ high.numeral? = none ∧ trim s < trim t))) := by
  have hiff := Value.increasing_literal_iff hlow hhigh
  obtain ⟨-, -, hless, -⟩ := of_range h
  rcases Value.numbers_or_texts_of_order? hlow hhigh hless with
    ⟨hfinite, hnumerals⟩ | ⟨hfinite, s, t, rfl, rfl, hlt⟩
  · exact ⟨fun _ => hiff.2 (.inl hnumerals), fun hnot => absurd (.inl hfinite) hnot⟩
  · refine ⟨?_, fun _ => ⟨s, t, rfl, rfl, hlt, ?_⟩⟩
    · rintro (hboth | ⟨s', t', hs', ht', hs, ht, htrim, htrim'⟩)
      · exact absurd hboth hfinite
      · cases hs'
        cases ht'
        exact hiff.2 (.inr ⟨s, t, rfl, rfl, hs, ht, by rwa [htrim, htrim']⟩)
    · rw [hiff]
      refine or_congr_right ⟨?_, fun ⟨hs, ht, htrim⟩ => ⟨s, t, rfl, rfl, hs, ht, htrim⟩⟩
      rintro ⟨s', t', hs', ht', hs, ht, htrim⟩
      cases hs'
      cases ht'
      exact ⟨hs, ht, htrim⟩

/-- An integer that no double has, next to a text with a fraction and white space
around it. -/
theorem increasing_of_range_fraction :
    let low : Value := .int 9007199254740993
    let high : Value := .text " +9007199254740996.25e0 "
    range "pri-ce" low high = .ok (.between "price" low high) ∧
      low.literal = "9007199254740993" ∧ high.literal = "+9007199254740996.25e0" ∧
      Increasing low.literal high.literal := by
  intro low high
  have hrange : range "pri-ce" low high = .ok (.between "price" low high) := by decide +kernel
  have hlow : low.IsIntOrText := trivial
  have hhigh : high.IsIntOrText := trivial
  have hcompared : low.ComparedAsShown high := .inl (by decide +kernel)
  exact ⟨hrange, by decide +kernel, by decide +kernel,
    (increasing_of_range hlow hhigh hrange).1 hcompared⟩

/-- A number beyond the doubles is compared as a text and shown as a number; white
space is compared and not shown; and a number may be compared with a text that is
none. -/
theorem not_increasing_of_range :
    let accepted (low high : Value) : Prop :=
      low.IsIntOrText ∧ high.IsIntOrText ∧ ∃ p, range "price" low high = .ok p
    let shown (low high : Value) : Prop := Increasing low.literal high.literal
    (accepted (.text "1e999") (.text "5") ∧ ¬shown (.text "1e999") (.text "5")) ∧
    (accepted (.text " b") (.text "a") ∧ ¬shown (.text " b") (.text "a")) ∧
    accepted (.text "7") (.text "b") ∧ ¬shown (.text "7") (.text "b") := by
  intro accepted shown
  have haccepted : ∀ s t, range "price" (.text s) (.text t)
      = .ok (.between "price" (.text s) (.text t)) → accepted (.text s) (.text t) :=
    fun s t h => ⟨trivial, trivial, _, h⟩
  have hshown : ∀ s t, shown (.text s) (.text t) → _ :=
    fun s t => (Value.increasing_literal_iff (v := .text s) (w := .text t) trivial trivial).1
  refine ⟨⟨haccepted _ _ (by decide +kernel), fun h => ?_⟩,
    ⟨haccepted _ _ (by decide +kernel), fun h => ?_⟩, haccepted _ _ (by decide +kernel),
    fun h => ?_⟩
  · have hlow : (Value.text "1e999").numeral? = some ⟨false, ⟨1, 999⟩⟩ := by decide +kernel
    have hhigh : (Value.text "5").numeral? = some ⟨false, ⟨5, 0⟩⟩ := by decide +kernel
    have hvalue : (⟨5, 0⟩ : Decimal).value ≤ (⟨1, 999⟩ : Decimal).value :=
      (Decimal.value_le_iff _ _).2 (by decide +kernel)
    rcases hshown _ _ h with ⟨m, n, hm, hn, hlt⟩ | ⟨s, t, -, -, hnone, -⟩
    · rw [hlow, Option.some.injEq] at hm
      rw [hhigh, Option.some.injEq] at hn
      subst hm hn
      exact absurd hvalue (not_le.2 hlt)
    · rw [hlow] at hnone
      cases hnone
  · rcases hshown _ _ h with ⟨m, n, hm, -⟩ | ⟨s, t, hs, ht, -, -, hlt⟩
    · have hnone : (Value.text " b").numeral? = none := by decide +kernel
      rw [hnone] at hm
      cases hm
    · cases hs
      cases ht
      exact absurd hlt (by decide +kernel)
  · rcases hshown _ _ h with ⟨m, n, -, hn, -⟩ | ⟨s, t, -, -, hnone, -⟩
    · have hnone : (Value.text "b").numeral? = none := by decide +kernel
      rw [hnone] at hn
      cases hn
    · exact absurd hnone (by decide +kernel)

end Predicate

end SearchSql
