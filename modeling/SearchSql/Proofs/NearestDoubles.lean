/-
SearchSql.Proofs.NearestDoubles — the nearest double of a larger number is no
smaller.

A number is rounded to the doubles by dropping low bits, as many as its size
asks for, and a tie goes to the even neighbour. Fractions are compared by
cross-multiplication, so no step below leaves the natural numbers.

* `Format.nearest_mono` — rounding keeps the order of fractions.
* `Format.nearest_of_nearestDecimal` — decimals that are settled without their
  power of ten are settled as exact rounding would.
* `Double.place_ofNumeral_mono` — hence the doubles of numerals are ordered as
  the numerals are, and `Double.value_lt_of_order?` is what a comparison of the
  doubles says about the numerals.
* `Double.ofInt_eq_ofNumeral` — an integer and the text of its digits have the
  same double.
-/
import Mathlib
import SearchSql.Proofs.NumeralText

namespace SearchSql.Number

open SearchSql.Text

/-! ## 1. Quotients -/

theorem natPow_pos {base : Nat} (h : 0 < base) (n : Nat) : 0 < Nat.pow base n :=
  Nat.pow_pos h

theorem natPow_le {base m n : Nat} (hbase : 0 < base) (h : m ≤ n) :
    Nat.pow base m ≤ Nat.pow base n :=
  Nat.pow_le_pow_right hbase h

theorem natPow_lt {base m n : Nat} (hbase : 1 < base) (h : m < n) :
    Nat.pow base m < Nat.pow base n :=
  Nat.pow_lt_pow_right hbase h

theorem div_le_roundEven (num den : Nat) : num / den ≤ roundEven num den := by
  simp only [roundEven]
  split
  · exact le_refl _
  · split <;> omega

theorem roundEven_le_div_add_one (num den : Nat) : roundEven num den ≤ num / den + 1 := by
  simp only [roundEven]
  split
  · omega
  · split <;> omega

/-- Larger fractions have whole parts that are no smaller. -/
theorem div_le_div_of_mul_le {a b c d : Nat} (hb : 0 < b) (hd : 0 < d) (h : a * d ≤ c * b) :
    a / b ≤ c / d := by
  rw [Nat.le_div_iff_mul_le hd]
  refine Nat.le_of_mul_le_mul_right ?_ hb
  calc a / b * d * b = a / b * b * d := Nat.mul_right_comm _ _ _
    _ ≤ a * d := Nat.mul_le_mul_right d (Nat.div_mul_le_self a b)
    _ ≤ c * b := h

/-- Larger fractions are rounded to numbers that are no smaller. -/
theorem roundEven_mono {a b c d : Nat} (hb : 0 < b) (hd : 0 < d) (h : a * d ≤ c * b) :
    roundEven a b ≤ roundEven c d := by
  have hquotient : a / b ≤ c / d := div_le_div_of_mul_le hb hd h
  rcases hquotient.lt_or_eq with hlt | heq
  · calc roundEven a b ≤ a / b + 1 := roundEven_le_div_add_one a b
      _ ≤ c / d := hlt
      _ ≤ roundEven c d := div_le_roundEven c d
  · -- The quotients are the same, so the remainders decide.
    have hremainder : a % b * d ≤ c % d * b := by
      have ha := Nat.div_add_mod a b
      have hc := Nat.div_add_mod c d
      have hwhole : b * (a / b) * d = d * (c / d) * b := by
        rw [heq]
        ring
      have hsum : b * (a / b) * d + a % b * d ≤ d * (c / d) * b + c % d * b := by
        rw [← Nat.add_mul, ← Nat.add_mul, ha, hc]
        exact h
      omega
    have hhalf : b ≤ 2 * (a % b) → d ≤ 2 * (c % d) := by
      intro hle
      refine Nat.le_of_mul_le_mul_right ?_ hb
      calc d * b = b * d := Nat.mul_comm d b
        _ ≤ 2 * (a % b) * d := Nat.mul_le_mul_right d hle
        _ = 2 * (a % b * d) := Nat.mul_assoc _ _ _
        _ ≤ 2 * (c % d * b) := Nat.mul_le_mul_left 2 hremainder
        _ = 2 * (c % d) * b := (Nat.mul_assoc _ _ _).symm
    have hmore : b < 2 * (a % b) → d < 2 * (c % d) := by
      intro hlt
      refine Nat.lt_of_mul_lt_mul_right (a := b) ?_
      calc d * b = b * d := Nat.mul_comm d b
        _ < 2 * (a % b) * d := Nat.mul_lt_mul_of_pos_right hlt hd
        _ = 2 * (a % b * d) := Nat.mul_assoc _ _ _
        _ ≤ 2 * (c % d * b) := Nat.mul_le_mul_left 2 hremainder
        _ = 2 * (c % d) * b := (Nat.mul_assoc _ _ _).symm
    simp only [roundEven, heq]
    split_ifs <;> omega

theorem roundEven_one (n : Nat) : roundEven n 1 = n := by
  simp [roundEven, Nat.mod_one]

theorem le_roundEven {k num den : Nat} (hden : 0 < den) (h : k * den ≤ num) :
    k ≤ roundEven num den := by
  calc k = roundEven k 1 := (roundEven_one k).symm
    _ ≤ roundEven num den := roundEven_mono Nat.one_pos hden (by simpa using h)

theorem roundEven_le {k num den : Nat} (hden : 0 < den) (h : num ≤ k * den) :
    roundEven num den ≤ k := by
  calc roundEven num den ≤ roundEven k 1 := roundEven_mono hden Nat.one_pos (by simpa using h)
    _ = k := roundEven_one k

/-! ## 2. Formats -/

namespace Format

variable {f : Format}

theorem excess_mono {m n : Nat} (h : m ≤ n) : f.excess m ≤ f.excess n := by
  have hlog : Nat.log2 m ≤ Nat.log2 n := by
    rw [Nat.log2_eq_log_two, Nat.log2_eq_log_two]
    exact Nat.log_mono_right h
  simp only [excess]
  omega

/-- The bits that are not dropped fit into the precision. -/
theorem lt_pow_excess (n : Nat) : n < Nat.pow 2 (f.excess n + f.precision) := by
  calc n < 2 ^ (Nat.log2 n + 1) := Nat.lt_log2_self
    _ ≤ 2 ^ (f.excess n + f.precision) := Nat.pow_le_pow_right two_pos (by simp only [excess]; omega)

/-- Where bits are dropped, the others fill the precision. -/
theorem pow_excess_le (hf : 0 < f.precision) {n : Nat} (h : 0 < f.excess n) :
    Nat.pow 2 (f.excess n + f.precision - 1) ≤ n := by
  simp only [excess] at h ⊢
  have hn : n ≠ 0 := by
    rintro rfl
    simp at h
    omega
  have hlog : Nat.log2 n + 1 - f.precision + f.precision - 1 = Nat.log2 n := by omega
  rw [hlog]
  exact Nat.log2_self_le hn

/-- So what is left of a number has as many bits as the precision at most. -/
theorem div_pow_excess_lt (n : Nat) :
    n / Nat.pow 2 (f.excess n) < Nat.pow 2 f.precision := by
  rw [Nat.div_lt_iff_lt_mul (natPow_pos two_pos _), Nat.mul_comm]
  exact (lt_pow_excess n).trans_eq (Nat.pow_add 2 _ _)

theorem le_div_pow_excess (hf : 0 < f.precision) {n : Nat} (h : 0 < f.excess n) :
    Nat.pow 2 (f.precision - 1) ≤ n / Nat.pow 2 (f.excess n) := by
  have hexponent : f.excess n + f.precision - 1 = f.precision - 1 + f.excess n := by omega
  rw [Nat.le_div_iff_mul_le (natPow_pos two_pos _)]
  refine le_trans (le_of_eq ?_) (pow_excess_le hf h)
  rw [hexponent]
  exact (Nat.pow_add 2 _ _).symm

/-- A number of units rounded to the precision: low bits are dropped, and the
rest is rounded to the even neighbour. -/
def rounded (f : Format) (num den : Nat) : Nat :=
  roundEven num (den * Nat.pow 2 (f.excess (num / den))) * Nat.pow 2 (f.excess (num / den))

theorem nearest_eq (num den : Nat) :
    f.nearest num den = if f.rounded (num * Nat.pow 2 f.tiny) den < Nat.pow 2 (f.range + f.tiny)
      then some (f.rounded (num * Nat.pow 2 f.tiny) den) else none := rfl

/-- A number is rounded to a power of two at most, one of the size of its bits. -/
theorem rounded_le (f : Format) (num : Nat) {den : Nat} (hden : 0 < den) :
    f.rounded num den ≤ Nat.pow 2 (f.precision + f.excess (num / den)) := by
  have hbits := lt_pow_excess (f := f) (num / den)
  rw [rounded]
  generalize f.excess (num / den) = i at hbits ⊢
  rw [Nat.div_lt_iff_lt_mul hden] at hbits
  have hround : roundEven num (den * Nat.pow 2 i) ≤ Nat.pow 2 f.precision := by
    refine roundEven_le (Nat.mul_pos hden (natPow_pos two_pos i)) ?_
    refine hbits.le.trans (le_of_eq ?_)
    change 2 ^ (i + f.precision) * den = 2 ^ f.precision * (den * 2 ^ i)
    ring
  calc roundEven num (den * Nat.pow 2 i) * Nat.pow 2 i
      ≤ Nat.pow 2 f.precision * Nat.pow 2 i := Nat.mul_le_mul_right _ hround
    _ = Nat.pow 2 (f.precision + i) := (Nat.pow_add 2 f.precision i).symm

theorem rounded_mono (hf : 0 < f.precision) {a b c d : Nat} (hb : 0 < b) (hd : 0 < d)
    (h : a * d ≤ c * b) : f.rounded a b ≤ f.rounded c d := by
  have hquotient : a / b ≤ c / d := div_le_div_of_mul_le hb hd h
  have hpower := rounded_le f a hb
  rw [rounded] at hpower
  simp only [rounded]
  generalize hi : f.excess (a / b) = i at hpower ⊢
  generalize hj : f.excess (c / d) = j
  have hij : i ≤ j := hi ▸ hj ▸ excess_mono hquotient
  rcases hij.lt_or_eq with hlt | rfl
  · -- Between the two there is a power of two that both formats have.
    have hhigh : Nat.pow 2 (f.precision - 1) * (d * Nat.pow 2 j) ≤ c := by
      have hbits : Nat.pow 2 (j + f.precision - 1) ≤ c / d :=
        hj ▸ pow_excess_le hf (by omega)
      rw [Nat.le_div_iff_mul_le hd] at hbits
      refine le_trans (le_of_eq ?_) hbits
      have hexponent : j + f.precision - 1 = f.precision - 1 + j := by omega
      rw [hexponent]
      change 2 ^ (f.precision - 1) * (d * 2 ^ j) = 2 ^ (f.precision - 1 + j) * d
      ring
    calc roundEven a (b * Nat.pow 2 i) * Nat.pow 2 i
        ≤ Nat.pow 2 (f.precision + i) := hpower
      _ ≤ Nat.pow 2 (f.precision - 1 + j) := natPow_le two_pos (by omega)
      _ = Nat.pow 2 (f.precision - 1) * Nat.pow 2 j := Nat.pow_add 2 (f.precision - 1) j
      _ ≤ roundEven c (d * Nat.pow 2 j) * Nat.pow 2 j :=
          Nat.mul_le_mul_right _ (le_roundEven (Nat.mul_pos hd (natPow_pos two_pos j)) hhigh)
  · refine Nat.mul_le_mul_right _ (roundEven_mono (Nat.mul_pos hb (natPow_pos two_pos i))
      (Nat.mul_pos hd (natPow_pos two_pos i)) ?_)
    calc a * (d * Nat.pow 2 i) = a * d * Nat.pow 2 i := (Nat.mul_assoc _ _ _).symm
      _ ≤ c * b * Nat.pow 2 i := Nat.mul_le_mul_right _ h
      _ = c * (b * Nat.pow 2 i) := Nat.mul_assoc _ _ _

/-- **Rounding keeps the order of fractions.** -/
theorem nearest_mono (hf : 0 < f.precision) {a b c d u v : Nat} (hb : 0 < b) (hd : 0 < d)
    (h : a * d ≤ c * b) (hu : f.nearest a b = some u) (hv : f.nearest c d = some v) :
    u ≤ v := by
  have hscaled : a * Nat.pow 2 f.tiny * d ≤ c * Nat.pow 2 f.tiny * b := by
    calc a * Nat.pow 2 f.tiny * d = a * d * Nat.pow 2 f.tiny := Nat.mul_right_comm _ _ _
      _ ≤ c * b * Nat.pow 2 f.tiny := Nat.mul_le_mul_right _ h
      _ = c * Nat.pow 2 f.tiny * b := Nat.mul_right_comm _ _ _
  rw [nearest_eq, Option.ite_none_right_eq_some] at hu hv
  obtain ⟨-, hu⟩ := hu
  obtain ⟨-, hv⟩ := hv
  cases hu
  cases hv
  exact rounded_mono hf hb hd hscaled

theorem lt_of_nearest {num den u : Nat} (h : f.nearest num den = some u) :
    u < Nat.pow 2 (f.range + f.tiny) := by
  rw [nearest_eq, Option.ite_none_right_eq_some] at h
  obtain ⟨hlt, hu⟩ := h
  cases hu
  exact hlt

/-- A fraction of less than half a unit is rounded to zero. -/
theorem nearest_eq_zero (hf : 0 < f.precision) {num den : Nat}
    (h : 2 * (num * Nat.pow 2 f.tiny) < den) : f.nearest num den = some 0 := by
  have hquotient : num * Nat.pow 2 f.tiny / den = 0 := Nat.div_eq_of_lt (by omega)
  have hexcess : f.excess 0 = 0 := by
    simp only [excess, Nat.log2_zero]
    omega
  have hround : roundEven (num * Nat.pow 2 f.tiny) (den * Nat.pow 2 0) = 0 := by
    have hone : den * Nat.pow 2 0 = den := Nat.mul_one den
    rw [hone, roundEven, Nat.mod_eq_of_lt (by omega), if_pos h, hquotient]
  have hrounded : f.rounded (num * Nat.pow 2 f.tiny) den = 0 := by
    rw [rounded, hquotient, hexcess, hround, Nat.zero_mul]
  rw [nearest_eq, hrounded, if_pos (natPow_pos two_pos _)]

end Format

/-! ## 3. Decimals -/

/-- A text of digits denotes less than a power of ten with as many zeros. -/
theorem ofDigitChars_lt : ∀ {cs : List Char}, (∀ c ∈ cs, isDigit c = true) → ∀ start : Nat,
    Nat.ofDigitChars 10 cs start < (start + 1) * Nat.pow 10 cs.length
  | [], _, start => by simp [Nat.ofDigitChars]
  | c :: cs, h, start => by
      have hrest := ofDigitChars_lt (fun d hd => h d (List.mem_cons_of_mem c hd))
        (10 * start + (c.toNat - '0'.toNat))
      have hc := (isDigit_iff c).1 (h c List.mem_cons_self)
      have hzero : '0'.toNat = 48 := rfl
      rw [Nat.ofDigitChars_cons]
      refine hrest.trans_le ?_
      calc (10 * start + (c.toNat - '0'.toNat) + 1) * Nat.pow 10 cs.length
          ≤ ((start + 1) * 10) * Nat.pow 10 cs.length := Nat.mul_le_mul_right _ (by omega)
        _ = (start + 1) * Nat.pow 10 (c :: cs).length := by
          rw [List.length_cons]
          change (start + 1) * 10 * 10 ^ cs.length = (start + 1) * 10 ^ (cs.length + 1)
          ring

theorem lt_pow_length_natChars (n : Nat) : n < Nat.pow 10 (natChars n).length := by
  have hlt := ofDigitChars_lt (fun c hc => isDigit_of_mem_natChars (n := n) hc) 0
  rw [ofDigitChars_natChars] at hlt
  omega

/-- Digits stand for less than a power of ten that has more zeros. -/
theorem mul_lt_pow_of_digits {n k unit exponent : Nat} (hunit : unit ≤ Nat.pow 10 k)
    (h : (natChars n).length + k ≤ exponent) : n * unit < Nat.pow 10 exponent := by
  calc n * unit < Nat.pow 10 (natChars n).length * Nat.pow 10 k :=
        Nat.mul_lt_mul_of_lt_of_le (lt_pow_length_natChars n) hunit (natPow_pos (by decide) _)
    _ = Nat.pow 10 ((natChars n).length + k) := (Nat.pow_add 10 _ _).symm
    _ ≤ Nat.pow 10 exponent := Nat.pow_le_pow_right (by decide) h

namespace Decimal

/-- A decimal as a fraction. -/
def fraction (d : Decimal) : Nat × Nat :=
  if 0 ≤ d.exponent then (d.digits * Nat.pow 10 d.exponent.toNat, 1)
  else (d.digits, Nat.pow 10 (-d.exponent).toNat)

theorem fraction_pos (d : Decimal) : 0 < d.fraction.2 := by
  rw [fraction]
  split
  · exact Nat.one_pos
  · exact natPow_pos (by decide) _

theorem value_eq (d : Decimal) : d.value = d.fraction.1 / d.fraction.2 := by
  rw [value, fraction]
  split
  · next h =>
    have hpow : (10 : ℚ) ^ d.exponent = ((Nat.pow 10 d.exponent.toNat : Nat) : ℚ) := by
      conv_lhs => rw [← Int.toNat_of_nonneg h]
      rw [zpow_natCast]
      exact (Nat.cast_pow 10 _).symm
    rw [hpow, Nat.cast_mul, Nat.cast_one, div_one]
  · next h =>
    have hpow : (10 : ℚ) ^ d.exponent = ((Nat.pow 10 (-d.exponent).toNat : Nat) : ℚ)⁻¹ := by
      have hexponent : d.exponent = -((-d.exponent).toNat : Int) := by omega
      conv_lhs => rw [hexponent]
      rw [zpow_neg, zpow_natCast]
      exact congrArg (·⁻¹) (Nat.cast_pow 10 _).symm
    rw [hpow, div_eq_mul_inv]

theorem value_nonneg (d : Decimal) : 0 ≤ d.value :=
  mul_nonneg (Nat.cast_nonneg _) (zpow_nonneg (by norm_num) _)

theorem value_eq_zero_iff (d : Decimal) : d.value = 0 ↔ d.digits = 0 := by
  have hpow : (10 : ℚ) ^ d.exponent ≠ 0 := zpow_ne_zero _ (by norm_num)
  rw [value, mul_eq_zero, or_iff_left hpow, Nat.cast_eq_zero]

theorem value_le_iff (d e : Decimal) :
    d.value ≤ e.value ↔ d.fraction.1 * e.fraction.2 ≤ e.fraction.1 * d.fraction.2 := by
  have hd : (0 : ℚ) < d.fraction.2 := Nat.cast_pos.2 d.fraction_pos
  have he : (0 : ℚ) < e.fraction.2 := Nat.cast_pos.2 e.fraction_pos
  rw [value_eq, value_eq, div_le_div_iff₀ hd he]
  exact_mod_cast Iff.rfl

end Decimal

/-- **Decimals are rounded exactly**, also those that are settled by their leading
digit alone. -/
theorem Format.nearest_of_nearestDecimal {d : Decimal} {u : Nat}
    (h : binary64.nearestDecimal d = some u) :
    binary64.nearest d.fraction.1 d.fraction.2 = some u := by
  have hprecision : 0 < binary64.precision := by decide
  simp only [nearestDecimal] at h
  split at h
  · next hsmall =>
    -- Nothing is left of zero, nor of a number below half a unit.
    cases h
    refine nearest_eq_zero hprecision ?_
    rcases hsmall with hzero | hleading
    · have hnum : d.fraction.1 = 0 := by
        rw [Decimal.fraction]
        split <;> simp [hzero]
      rw [hnum, Nat.zero_mul]
      exact d.fraction_pos
    · have hexponent : ¬ 0 ≤ d.exponent := by omega
      have hlength : (natChars d.digits).length + 330 ≤ (-d.exponent).toNat := by
        change d.exponent + ((natChars d.digits).length : Int) < -330 at hleading
        omega
      have hunit : 2 * Nat.pow 2 binary64.tiny ≤ Nat.pow 10 330 := by decide +kernel
      rw [Decimal.fraction, if_neg hexponent]
      rw [Nat.mul_left_comm]
      exact mul_lt_pow_of_digits hunit hlength
  · split at h
    · cases h
    · rw [Decimal.fraction]
      split at h
      · next hexponent => rwa [if_pos hexponent]
      · next hexponent => rwa [if_neg hexponent]

/-! ## 4. Doubles -/

namespace Double

/-- Larger magnitudes have larger bits. -/
theorem bitsOfUnits_mono {u v : Nat} (h : u ≤ v) : bitsOfUnits u ≤ bitsOfUnits v := by
  have hij : binary64.excess u ≤ binary64.excess v := Format.excess_mono h
  simp only [bitsOfUnits]
  rcases hij.lt_or_eq with hlt | heq
  · have hu : u / Nat.pow 2 (binary64.excess u) < Nat.pow 2 53 := Format.div_pow_excess_lt u
    have hv : Nat.pow 2 52 ≤ v / Nat.pow 2 (binary64.excess v) :=
      Format.le_div_pow_excess (f := binary64) (by decide) (by omega)
    have hbits : Nat.pow 2 53 = 2 * Nat.pow 2 52 := rfl
    have hstep : (binary64.excess u + 1) * Nat.pow 2 52 ≤ binary64.excess v * Nat.pow 2 52 :=
      Nat.mul_le_mul_right _ hlt
    rw [Nat.add_mul, Nat.one_mul] at hstep
    omega
  · rw [heq]
    exact Nat.add_le_add_left (Nat.div_le_div_right h) _

/-- The units of the format are the bits of finite doubles. -/
theorem bitsOfUnits_lt {u : Nat} (h : u < Nat.pow 2 (binary64.range + binary64.tiny)) :
    bitsOfUnits u < infinityBits := by
  have hlargest : bitsOfUnits (Nat.pow 2 (binary64.range + binary64.tiny) - 1) < infinityBits := by
    decide +kernel
  exact (bitsOfUnits_mono (Nat.le_sub_one_of_lt h)).trans_lt hlargest

theorem toNat_bits_ofParts (negative : Bool) {m : Nat} (h : m < Nat.pow 2 63) :
    (ofParts negative m).bits.toNat = if negative then Nat.pow 2 63 + m else m := by
  have hpow : Nat.pow 2 63 = 9223372036854775808 := rfl
  rw [ofParts, UInt64.toNat_ofNat']
  apply Nat.mod_eq_of_lt
  cases negative <;> simp only [Bool.false_eq_true, if_false, if_true] <;> omega

theorem magnitudeBits_ofParts (negative : Bool) {m : Nat} (h : m < Nat.pow 2 63) :
    (ofParts negative m).magnitudeBits = m := by
  rw [magnitudeBits, toNat_bits_ofParts negative h]
  cases negative
  · exact Nat.mod_eq_of_lt h
  · rw [if_pos rfl, Nat.add_mod_left, Nat.mod_eq_of_lt h]

theorem place_ofParts (negative : Bool) {m : Nat} (h : m < Nat.pow 2 63) :
    (ofParts negative m).place = if negative then -(m : Int) else m := by
  have hnegative : (ofParts negative m).isNegative = negative := by
    rw [isNegative, toNat_bits_ofParts negative h]
    cases negative
    · simpa using h
    · simp
  rw [place, hnegative, magnitudeBits_ofParts negative h]

theorem isFinite_ofParts (negative : Bool) {m : Nat} (h : m < infinityBits) :
    (ofParts negative m).isFinite = true := by
  have hbits : infinityBits < Nat.pow 2 63 := by decide
  rw [isFinite, magnitudeBits_ofParts negative (h.trans hbits), decide_eq_true_eq]
  exact h

theorem isNaN_of_isFinite {x : Double} (h : x.isFinite = true) : x.isNaN = false := by
  rw [isFinite, decide_eq_true_eq] at h
  rw [isNaN, decide_eq_false_iff_not]
  omega

/-- Finite doubles are compared by their places. -/
theorem order?_of_isFinite {x y : Double} (hx : x.isFinite = true) (hy : y.isFinite = true) :
    x.order? y = some (compare x.place y.place) := by
  rw [order?, isNaN_of_isFinite hx, isNaN_of_isFinite hy]
  rfl

/-- A finite double of a magnitude has the units of the magnitude. -/
theorem exists_units_of_isFinite {negative : Bool} {o : Option Nat}
    (h : (ofMagnitude negative o).isFinite = true) : ∃ u, o = some u := by
  cases o with
  | some u => exact ⟨u, rfl⟩
  | none => cases negative <;> exact absurd h (by decide)

theorem place_ofMagnitude (negative : Bool) {u : Nat}
    (h : u < Nat.pow 2 (binary64.range + binary64.tiny)) :
    (ofMagnitude negative (some u)).place
      = if negative then -(bitsOfUnits u : Int) else bitsOfUnits u := by
  have hbits : infinityBits < Nat.pow 2 63 := by decide
  exact place_ofParts negative ((bitsOfUnits_lt h).trans hbits)

/-! ## 5. Numerals -/

/-- **The doubles of numerals are ordered as the numerals are**, where they are
finite. -/
theorem place_ofNumeral_mono {m n : Numeral} (hm : (ofNumeral m).isFinite = true)
    (hn : (ofNumeral n).isFinite = true) (h : m.value ≤ n.value) :
    (ofNumeral m).place ≤ (ofNumeral n).place := by
  obtain ⟨u, hu⟩ := exists_units_of_isFinite hm
  obtain ⟨v, hv⟩ := exists_units_of_isFinite hn
  have hnearest := Format.nearest_of_nearestDecimal hu
  have hnearest' := Format.nearest_of_nearestDecimal hv
  have hmono : ∀ {d e : Decimal} {x y : Nat},
      binary64.nearest d.fraction.1 d.fraction.2 = some x →
      binary64.nearest e.fraction.1 e.fraction.2 = some y → d.value ≤ e.value →
      bitsOfUnits x ≤ bitsOfUnits y := by
    intro d e x y hx hy hle
    exact bitsOfUnits_mono (Format.nearest_mono (by decide) d.fraction_pos e.fraction_pos
      ((d.value_le_iff e).1 hle) hx hy)
  rw [ofNumeral, ofNumeral, hu, hv, place_ofMagnitude _ (Format.lt_of_nearest hnearest),
    place_ofMagnitude _ (Format.lt_of_nearest hnearest')]
  rw [Numeral.value, Numeral.value] at h
  cases hsign : m.negative <;> cases hsign' : n.negative <;>
    simp only [hsign, hsign', if_true, if_false, Bool.false_eq_true] at h ⊢
  · exact Int.ofNat_le.2 (hmono hnearest hnearest' h)
  · -- Both numerals are zeros.
    have hzero : ∀ {d : Decimal} {x : Nat}, binary64.nearestDecimal d = some x →
        d.value = 0 → bitsOfUnits x = 0 := by
      intro d x hx hd
      rw [Format.nearestDecimal, if_pos (.inl (d.value_eq_zero_iff.1 hd))] at hx
      cases hx
      decide
    have hvalue := m.magnitude.value_nonneg
    have hvalue' := n.magnitude.value_nonneg
    rw [hzero hu (by linarith), hzero hv (by linarith)]
    rfl
  · omega
  · exact Int.neg_le_neg (Int.ofNat_le.2 (hmono hnearest' hnearest (by linarith)))

/-- Finite doubles that increase are of numerals that do. -/
theorem value_lt_of_order? {m n : Numeral} (hm : (ofNumeral m).isFinite = true)
    (hn : (ofNumeral n).isFinite = true)
    (h : (ofNumeral m).order? (ofNumeral n) = some .lt) : m.value < n.value := by
  rw [order?_of_isFinite hm hn, Option.some.injEq, Int.compare_eq_lt] at h
  by_contra hle
  have := place_ofNumeral_mono hn hm (not_lt.1 hle)
  omega

/-! ## 6. Integers -/

/-- An integer has the double of its digits. -/
theorem ofInt_eq_ofNumeral {n : Int} (h : n.natAbs < Nat.pow 2 64) :
    ofInt n = ofNumeral (.ofInt n) := by
  have hmagnitude : binary64.nearestDecimal ⟨n.natAbs, 0⟩ = binary64.nearest n.natAbs 1 := by
    simp only [Format.nearestDecimal]
    have hlength : (Nat.toDigits 10 n.natAbs).length ≤ 20 :=
      Nat.toDigits_length 10 _ 20 (by decide) (h.trans (by decide))
    split
    · next hsmall =>
      have hzero : n.natAbs = 0 := by omega
      rw [hzero, Format.nearest_eq_zero (by decide) (by rw [Nat.zero_mul]; decide)]
    · rw [if_neg (by omega), if_pos (by decide)]
      simp
  rw [ofInt, ofFraction, ofNumeral, Numeral.ofInt, hmagnitude]

/-- The integers that are bound as values have finite doubles, and only zero has a
zero. -/
theorem exists_parts_of_ofInt {n : Int} (h : n.natAbs < Nat.pow 2 64) :
    ∃ m, m < infinityBits ∧ ofInt n = ofParts (n < 0) m ∧ (m = 0 → n = 0) := by
  have hlargest : binary64.rounded (Nat.pow 2 64 * Nat.pow 2 binary64.tiny) 1
      < Nat.pow 2 (binary64.range + binary64.tiny) := by decide +kernel
  have hbound : binary64.rounded (n.natAbs * Nat.pow 2 binary64.tiny) 1
      < Nat.pow 2 (binary64.range + binary64.tiny) := by
    refine lt_of_le_of_lt (Format.rounded_mono (by decide) Nat.one_pos Nat.one_pos ?_) hlargest
    exact Nat.mul_le_mul_right _ (Nat.mul_le_mul_right _ h.le)
  have hnearest : binary64.nearest n.natAbs 1
      = some (binary64.rounded (n.natAbs * Nat.pow 2 binary64.tiny) 1) := by
    rw [Format.nearest_eq, if_pos hbound]
  refine ⟨_, bitsOfUnits_lt hbound, ?_, fun hzero => ?_⟩
  · rw [ofInt, ofFraction, hnearest]
    rfl
  · by_contra hn
    have hone : 0 < bitsOfUnits (binary64.rounded (1 * Nat.pow 2 binary64.tiny) 1) := by
      decide +kernel
    have hmono : bitsOfUnits (binary64.rounded (1 * Nat.pow 2 binary64.tiny) 1)
        ≤ bitsOfUnits (binary64.rounded (n.natAbs * Nat.pow 2 binary64.tiny) 1) := by
      refine bitsOfUnits_mono (Format.rounded_mono (by decide) Nat.one_pos Nat.one_pos ?_)
      exact Nat.mul_le_mul_right _ (Nat.mul_le_mul_right _ (Int.natAbs_pos.2 hn))
    omega

theorem isFinite_ofInt {n : Int} (h : n.natAbs < Nat.pow 2 64) : (ofInt n).isFinite = true := by
  obtain ⟨m, hm, heq, -⟩ := exists_parts_of_ofInt h
  rw [heq]
  exact isFinite_ofParts _ hm

/-- Integers with different doubles have doubles at different places. -/
theorem ofInt_eq_of_place_eq {a b : Int} (ha : a.natAbs < Nat.pow 2 64)
    (hb : b.natAbs < Nat.pow 2 64) (h : (ofInt a).place = (ofInt b).place) :
    ofInt a = ofInt b := by
  have hbits : infinityBits < Nat.pow 2 63 := by decide
  obtain ⟨m, hm, heq, hzero⟩ := exists_parts_of_ofInt ha
  obtain ⟨n, hn, heq', hzero'⟩ := exists_parts_of_ofInt hb
  rw [heq, heq', place_ofParts _ (hm.trans hbits), place_ofParts _ (hn.trans hbits)] at h
  rw [heq, heq']
  by_cases hnegative : a < 0 <;> by_cases hnegative' : b < 0 <;>
    simp only [hnegative, hnegative', decide_true, decide_false, if_true, if_false,
      Bool.false_eq_true] at h ⊢
  · have : m = n := by omega
    rw [this]
  · omega
  · omega
  · have : m = n := by omega
    rw [this]

end Double

end SearchSql.Number
