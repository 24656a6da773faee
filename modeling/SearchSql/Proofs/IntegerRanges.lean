/-
SearchSql.Proofs.IntegerRanges — ranges between integers.

A bound is an integer of sixty-four bits, signed or unsigned. An unsigned integer
beyond the signed ones is bound as the text of its digits. In a statement it is
still the same plain numeral, but it is compared as a double: two integers of which
the larger one is that large are in order only where their doubles differ.

* `Value.OfInteger.order?_eq_lt_iff` — the order of two bound integers.
* `Predicate.range_of_integers` — which ranges are accepted, what they show, and what
  a refusal says; `Predicate.range_error_of_neighbours` has integers that increase
  and are refused.
-/
import Mathlib
import SearchSql.Proofs.RangeBounds

namespace SearchSql

open SearchSql.Number SearchSql.Text

/-! ## 1. Integers as doubles -/

namespace Number.Double

theorem place_ofInt_mono {a b : Int} (ha : a.natAbs < Nat.pow 2 64) (hb : b.natAbs < Nat.pow 2 64)
    (h : a ≤ b) : (ofInt a).place ≤ (ofInt b).place := by
  have hafinite := isFinite_ofInt ha
  have hbfinite := isFinite_ofInt hb
  rw [ofInt_eq_ofNumeral ha] at hafinite ⊢
  rw [ofInt_eq_ofNumeral hb] at hbfinite ⊢
  refine place_ofNumeral_mono hafinite hbfinite ?_
  rw [Numeral.value_ofInt, Numeral.value_ofInt]
  exact_mod_cast h

/-- **The doubles of integers increase where the integers do, unless they are the
same double.** -/
theorem order?_ofInt_eq_lt_iff {a b : Int} (ha : a.natAbs < Nat.pow 2 64)
    (hb : b.natAbs < Nat.pow 2 64) :
    (ofInt a).order? (ofInt b) = some .lt ↔ a < b ∧ ofInt a ≠ ofInt b := by
  rw [order?_of_isFinite (isFinite_ofInt ha) (isFinite_ofInt hb), Option.some.injEq,
    Int.compare_eq_lt]
  constructor
  · intro hlt
    refine ⟨?_, fun heq => ?_⟩
    · by_contra hle
      have := place_ofInt_mono hb ha (not_lt.1 hle)
      omega
    · rw [heq] at hlt
      exact absurd hlt (lt_irrefl _)
  · rintro ⟨hlt, hne⟩
    refine lt_of_le_of_ne (place_ofInt_mono ha hb hlt.le) fun heq => ?_
    exact hne (ofInt_eq_of_place_eq ha hb heq)

end Number.Double

/-! ## 2. Bound integers -/

namespace Value

/-- The values that integers are bound as: a signed integer as it is, an unsigned
one by `ofUInt64`. -/
inductive OfInteger : Value → Int → Prop
  | signed (n : Int64) : OfInteger (.int n) n.toInt
  | unsigned (n : UInt64) : OfInteger (ofUInt64 n) n.toNat

namespace OfInteger

variable {v w : Value} {a b : Int}

/-- Digits are not trimmed. -/
theorem trimChars_natText (n : Nat) : trimChars (natText n).toList = natChars n := by
  rw [natText, String.toList_ofList]
  refine trimChars_of_visible fun c hc => ?_
  have hdigit := (isDigit_iff c).1 (isDigit_of_mem_natChars hc)
  exact isBlank_of_graphic (by omega) (by omega)

/-- An integer is bound as one where it fits, and as the text of its digits where it
is larger. -/
theorem int_or_digits (h : v.OfInteger a) :
    (∃ n : Int64, v = .int n ∧ n.toInt = a ∧ a < Int.pow 2 63) ∨
    ∃ n : Nat, v = .text (natText n) ∧ n = a ∧ Int.pow 2 63 ≤ a ∧ n < Nat.pow 2 64 := by
  have hpow : Nat.pow 2 63 = 9223372036854775808 := rfl
  have hpow' : Int.pow 2 63 = 9223372036854775808 := rfl
  cases h with
  | signed n => exact .inl ⟨n, rfl, rfl, n.toInt_lt⟩
  | unsigned n =>
    by_cases hn : n.toNat < Nat.pow 2 63
    · have htoInt : (Int64.ofInt n.toNat).toInt = n.toNat :=
        Int64.toInt_ofInt_of_le (by omega) (by omega)
      rw [ofUInt64, if_pos hn]
      exact .inl ⟨_, rfl, htoInt, by omega⟩
    · rw [ofUInt64, if_neg hn]
      exact .inr ⟨n.toNat, rfl, rfl, by omega, n.toNat_lt⟩

theorem isIntOrText (h : v.OfInteger a) : v.IsIntOrText := by
  rcases h.int_or_digits with ⟨n, rfl, -⟩ | ⟨n, rfl, -⟩ <;> trivial

theorem natAbs_lt (h : v.OfInteger a) : a.natAbs < Nat.pow 2 64 := by
  rcases h.int_or_digits with ⟨n, -, rfl, -⟩ | ⟨n, -, rfl, -, hn⟩
  · exact natAbs_toInt_lt n
  · exact hn

theorem numeral?_eq (h : v.OfInteger a) : v.numeral? = some (.ofInt a) := by
  rcases h.int_or_digits with ⟨n, rfl, rfl, -⟩ | ⟨n, rfl, rfl, -⟩
  · rfl
  · rw [numeral?, trimChars_natText, readNumeral?_natChars]

/-- A bound integer is shown with its digits. -/
theorem literal_eq (h : v.OfInteger a) : v.literal = intText a := by
  rcases h.int_or_digits with ⟨n, rfl, rfl, -⟩ | ⟨n, rfl, rfl, -⟩
  · rfl
  · have hnumeric : Literal.isNumeric (natChars n) = true := by
      rw [Literal.isNumeric_eq, readNumeral?_natChars, Option.isSome_some]
    rw [literal, Literal.ofText, trimChars_natText, if_pos hnumeric, trim, trimChars_natText]
    rfl

theorem float?_eq (h : v.OfInteger a) : v.float? = some (Double.ofInt a) := by
  have hfinite := Double.isFinite_ofInt h.natAbs_lt
  rw [Value.float?_eq h.isIntOrText, h.numeral?_eq, Option.map_some,
    ← Double.ofInt_eq_ofNumeral h.natAbs_lt, Option.filter_some, if_pos hfinite]

/-- **The order of two bound integers**: exact up to the largest signed integer, and
the order of their doubles beyond. -/
theorem order?_eq_lt_iff (hv : v.OfInteger a) (hw : w.OfInteger b) :
    v.order? w = some .lt ↔ a < b ∧ (b < Int.pow 2 63 ∨ Double.ofInt a ≠ Double.ofInt b) := by
  have hdoubles : v.numberOrder? w = some .lt ↔ a < b ∧ Double.ofInt a ≠ Double.ofInt b := by
    rw [numberOrder?, hv.float?_eq, hw.float?_eq]
    exact Double.order?_ofInt_eq_lt_iff hv.natAbs_lt hw.natAbs_lt
  have hbeyond : Int.pow 2 63 ≤ a ∨ Int.pow 2 63 ≤ b →
      (a < b ∧ (b < Int.pow 2 63 ∨ Double.ofInt a ≠ Double.ofInt b) ↔
        a < b ∧ Double.ofInt a ≠ Double.ofInt b) := by
    intro hlarge
    refine and_congr_right fun hlt => or_iff_right ?_
    omega
  rcases hv.int_or_digits with ⟨m, rfl, rfl, hm⟩ | ⟨m, rfl, rfl, hm, -⟩ <;>
    rcases hw.int_or_digits with ⟨n, rfl, rfl, hn⟩ | ⟨n, rfl, rfl, hn, -⟩
  · rw [order?, Option.some.injEq, Int.compare_eq_lt]
    exact (and_iff_left (.inl hn)).symm
  · rw [hbeyond (.inr hn), ← hdoubles]
    rfl
  · rw [hbeyond (.inl hm), ← hdoubles]
    rfl
  · rw [hbeyond (.inl hm), ← hdoubles]
    simp only [order?, numberOrder?, hv.float?_eq, hw.float?_eq]

end OfInteger

end Value

/-! ## 3. Ranges -/

namespace Predicate

/-- **A range between integers is accepted where they increase and are not too large
to be told apart.** An accepted range shows plain numerals, and a refusal says which
integers did not increase. No other order of the integers is ever accepted. -/
theorem range_of_integers {field name : String} {v w : Value} {a b : Int}
    (hname : Name.field field = .ok name) (hv : v.OfInteger a) (hw : w.OfInteger b) :
    ((∃ p, range field v w = .ok p) ↔
      a < b ∧ (b < Int.pow 2 63 ∨ Double.ofInt a ≠ Double.ofInt b)) ∧
    (∀ p, range field v w = .ok p →
      p.render = name ++ " BETWEEN " ++ intText a ++ " AND " ++ intText b) ∧
    ∀ e, range field v w = .error e → e = .invalidRange name (intText a) (intText b) := by
  rw [range_of_field hname, hv.literal_eq, hw.literal_eq, ← hv.order?_eq_lt_iff hw]
  refine ⟨?_, fun p hp => ?_, fun e he => ?_⟩
  · constructor
    · rintro ⟨p, hp⟩
      split at hp
      · next hlt => exact beq_iff_eq.1 hlt
      · cases hp
    · intro hlt
      exact ⟨_, if_pos (beq_iff_eq.2 hlt)⟩
  · split at hp
    · cases hp
      rw [render, hv.literal_eq, hw.literal_eq]
    · cases hp
  · split at he
    · cases he
    · cases he
      rfl

/-- The smallest signed integer and the largest unsigned one. -/
theorem range_of_integers_extremes :
    let low : Value := .int Int64.minValue
    let high : Value := Value.ofUInt64 18446744073709551615
    (∃ p, range "pri-ce" low high = .ok p) ∧ (∀ p, range "pri-ce" low high = .ok p → p.render
      = "price BETWEEN -9223372036854775808 AND 18446744073709551615") := by
  intro low high
  have hname : Name.field "pri-ce" = .ok "price" := by decide +kernel
  obtain ⟨hiff, hrender, -⟩ :=
    range_of_integers hname (.signed Int64.minValue) (.unsigned 18446744073709551615)
  exact ⟨hiff.2 (by decide +kernel), hrender⟩

/-- The largest signed integer and the next one have the same double. -/
theorem range_error_of_neighbours :
    let low : Value := .int 9223372036854775807
    let high : Value := Value.ofUInt64 9223372036854775808
    low.OfInteger 9223372036854775807 ∧ high.OfInteger 9223372036854775808 ∧
      range "price" low high
        = .error (.invalidRange "price" "9223372036854775807" "9223372036854775808") := by
  intro low high
  exact ⟨.signed 9223372036854775807, .unsigned 9223372036854775808, by decide +kernel⟩

end Predicate

end SearchSql
