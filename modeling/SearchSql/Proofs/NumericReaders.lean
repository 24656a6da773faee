/-
SearchSql.Proofs.NumericReaders — the readers of numbers in text.

A text is read as a number by three readers: one decides whether a statement shows
it without quotes, one reads integers, and one reads doubles. They agree, except
that the reader of doubles knows words for infinity and for what is no number, and
that a number may be too large for it.

* `Number.overflowBound` — the least number that is rounded to infinity;
  `Number.Double.ofNumeral_cases` says which numerals have finite doubles.
* `Value.readers_agree` — which texts each reader accepts, and what a statement
  shows of them.
-/
import Mathlib
import SearchSql.Proofs.RangeBounds

namespace SearchSql

open SearchSql.Number SearchSql.Text

/-! ## 1. Numbers beyond the doubles -/

namespace Number

/-- What is less than halfway to the next whole number is not rounded to it. -/
theorem roundEven_le_of_lt_half {k num den : Nat} (h : 2 * num < (2 * k + 1) * den) :
    roundEven num den ≤ k := by
  have hden : 0 < den := Nat.pos_of_mul_pos_left (Nat.zero_lt_of_lt h)
  have hhalf : (2 * k + 1) * den = 2 * (k * den) + den := by ring
  rcases Nat.lt_or_ge (k * den) num with hlt | hle
  · obtain ⟨r, rfl⟩ := Nat.exists_eq_add_of_le hlt.le
    have hr : 2 * r < den := by omega
    have hquotient : (k * den + r) / den = k := by
      rw [Nat.add_comm, Nat.add_mul_div_right _ _ hden, Nat.div_eq_of_lt (by omega),
        Nat.zero_add]
    have hremainder : (k * den + r) % den = r := by
      rw [Nat.add_comm, Nat.add_mul_mod_self_right, Nat.mod_eq_of_lt (by omega)]
    simp only [roundEven, hquotient, hremainder, if_pos hr, le_refl]
  · exact roundEven_le hden hle

/-- The least number that is rounded to infinity. It lies halfway between the largest
double and the next power of two. -/
def overflowBound : Nat := Nat.pow 2 1024 - Nat.pow 2 970

namespace Format

/-- A number has no more bits to drop than a power of two above it says. -/
theorem excess_le {f : Format} (hf : 0 < f.precision) {n j : Nat}
    (h : n < Nat.pow 2 (f.precision + j)) : f.excess n ≤ j := by
  rw [excess]
  rcases Nat.eq_zero_or_pos n with rfl | hn
  · rw [Nat.log2_zero]
    omega
  · have hlog := (Nat.log2_lt hn.ne').2 h
    omega

/-- **A number below a bound is rounded to less than a power of two**, where the bound
lies half the weight of the last bit there below that power. -/
theorem rounded_lt (f : Format) (bound j : Nat) (hf : 0 < f.precision)
    (hbound : 2 * (bound * Nat.pow 2 f.tiny) = (2 * (Nat.pow 2 f.precision - 1) + 1) * Nat.pow 2 j)
    {num den : Nat} (h : num < bound * den) :
    f.rounded (num * Nat.pow 2 f.tiny) den < Nat.pow 2 (f.precision + j) := by
  have hprecision := natPow_pos two_pos f.precision
  have hweight := natPow_pos two_pos j
  have hunit := natPow_pos two_pos f.tiny
  have hden : 0 < den := Nat.pos_of_mul_pos_left (Nat.zero_lt_of_lt h)
  have hpow : Nat.pow 2 (f.precision + j) = Nat.pow 2 f.precision * Nat.pow 2 j :=
    Nat.pow_add 2 f.precision j
  have hhalf : 2 * (num * Nat.pow 2 f.tiny)
      < (2 * (Nat.pow 2 f.precision - 1) + 1) * (den * Nat.pow 2 j) := by
    calc 2 * (num * Nat.pow 2 f.tiny)
        < 2 * (bound * den * Nat.pow 2 f.tiny) :=
          Nat.mul_lt_mul_of_pos_left (Nat.mul_lt_mul_of_pos_right h hunit) two_pos
      _ = 2 * (bound * Nat.pow 2 f.tiny) * den := by ring
      _ = (2 * (Nat.pow 2 f.precision - 1) + 1) * (den * Nat.pow 2 j) := by
        rw [hbound, Nat.mul_assoc, Nat.mul_comm den]
  have hexcess : f.excess (num * Nat.pow 2 f.tiny / den) ≤ j := by
    refine excess_le hf ?_
    rw [Nat.div_lt_iff_lt_mul hden, hpow]
    have hwhole : (2 * (Nat.pow 2 f.precision - 1) + 1) * (den * Nat.pow 2 j)
        ≤ 2 * Nat.pow 2 f.precision * (den * Nat.pow 2 j) :=
      Nat.mul_le_mul_right _ (by omega)
    rw [Nat.mul_assoc] at hwhole
    rw [Nat.mul_assoc, Nat.mul_comm (Nat.pow 2 j)]
    omega
  -- With fewer bits to drop it stays below the power anyway. With `j` of them it is a
  -- multiple of `2 ^ j`, and the bound keeps it from the last one.
  rcases hexcess.lt_or_eq with hlt | heq
  · calc f.rounded (num * Nat.pow 2 f.tiny) den
        ≤ Nat.pow 2 (f.precision + f.excess (num * Nat.pow 2 f.tiny / den)) :=
          rounded_le f _ hden
      _ < Nat.pow 2 (f.precision + j) := natPow_lt one_lt_two (by omega)
  · have hround := roundEven_le_of_lt_half hhalf
    rw [rounded, heq, hpow]
    exact Nat.mul_lt_mul_of_pos_right (by omega) hweight

/-- The bound in units lies half the weight of the last bit there below a power of two. -/
theorem overflowBound_units :
    2 * (overflowBound * Nat.pow 2 binary64.tiny)
      = (2 * (Nat.pow 2 binary64.precision - 1) + 1)
        * Nat.pow 2 (binary64.range + binary64.tiny - binary64.precision) := by
  decide +kernel

/-- Numbers with more digits are beyond the bound. -/
theorem overflowBound_le : overflowBound ≤ Nat.pow 10 310 := by decide +kernel

/-- **Fractions from the bound on are rounded to infinity, and no others.** -/
theorem nearest_eq_none_iff {num den : Nat} (hden : 0 < den) :
    binary64.nearest num den = none ↔ overflowBound * den ≤ num := by
  rw [nearest_eq]
  constructor
  · intro hnone
    by_contra hlarge
    have hlt := rounded_lt binary64 overflowBound
      (binary64.range + binary64.tiny - binary64.precision) (by decide) overflowBound_units
      (Nat.lt_of_not_le hlarge)
    rw [Nat.add_sub_of_le (by decide)] at hlt
    rw [if_pos hlt] at hnone
    cases hnone
  · intro hlarge
    have hlimit : binary64.rounded (overflowBound * Nat.pow 2 binary64.tiny) 1
        = Nat.pow 2 (binary64.range + binary64.tiny) := by decide +kernel
    refine if_neg (Nat.not_lt.2 ?_)
    rw [← hlimit]
    refine rounded_mono (by decide) Nat.one_pos hden ?_
    rw [Nat.mul_right_comm, Nat.mul_one]
    exact Nat.mul_le_mul_right _ hlarge

/-- A number has the size of its digits. -/
theorem pow_le_of_ne_zero {n : Nat} (h : n ≠ 0) :
    Nat.pow 10 ((natChars n).length - 1) ≤ n := by
  by_contra hlt
  have hlt : n < 10 ^ ((natChars n).length - 1) := Nat.lt_of_not_le hlt
  cases hlength : (natChars n).length - 1 with
  | zero =>
    rw [hlength, pow_zero] at hlt
    omega
  | succ k =>
    rw [hlength] at hlt
    have hshort := (Nat.length_toDigits_le_iff (by decide) (Nat.succ_pos k)).2 hlt
    rw [natChars] at hlength
    omega

/-- A decimal is as large as the place of its leading digit says. -/
theorem mul_le_of_leading {d : Decimal} {bound k : Nat} (hbound : bound ≤ Nat.pow 10 k)
    (hd : d.digits ≠ 0) (h : k < d.exponent + (natChars d.digits).length) :
    bound * d.fraction.2 ≤ d.fraction.1 := by
  have hdigits := pow_le_of_ne_zero hd
  refine (Nat.mul_le_mul_right _ hbound).trans ?_
  rw [Decimal.fraction]
  split
  · next hexponent =>
    calc Nat.pow 10 k * 1
        = Nat.pow 10 k := Nat.mul_one _
      _ ≤ Nat.pow 10 ((natChars d.digits).length - 1 + d.exponent.toNat) :=
          natPow_le (by decide) (by omega)
      _ = Nat.pow 10 ((natChars d.digits).length - 1) * Nat.pow 10 d.exponent.toNat :=
          Nat.pow_add 10 _ _
      _ ≤ d.digits * Nat.pow 10 d.exponent.toNat := Nat.mul_le_mul_right _ hdigits
  · next hexponent =>
    calc Nat.pow 10 k * Nat.pow 10 (-d.exponent).toNat
        = Nat.pow 10 (k + (-d.exponent).toNat) := (Nat.pow_add 10 _ _).symm
      _ ≤ Nat.pow 10 ((natChars d.digits).length - 1) := natPow_le (by decide) (by omega)
      _ ≤ d.digits := hdigits

/-- **Decimals are rounded exactly**, also those that are refused for their leading
digit alone. -/
theorem nearestDecimal_eq (d : Decimal) :
    binary64.nearestDecimal d = binary64.nearest d.fraction.1 d.fraction.2 := by
  cases h : binary64.nearestDecimal d with
  | some u => exact (nearest_of_nearestDecimal h).symm
  | none =>
    symm
    simp only [nearestDecimal] at h
    split at h
    · cases h
    · next hsmall =>
      split at h
      · next hlarge =>
        rw [nearest_eq_none_iff d.fraction_pos]
        exact mul_le_of_leading overflowBound_le (not_or.1 hsmall).1 hlarge
      · rw [Decimal.fraction]
        split at h
        · next hexponent => rwa [if_pos hexponent]
        · next hexponent => rwa [if_neg hexponent]

end Format

namespace Double

theorem abs_value (n : Numeral) : |n.value| = n.magnitude.value := by
  have hvalue := n.magnitude.value_nonneg
  rw [Numeral.value]
  split
  · rw [abs_neg, abs_of_nonneg hvalue]
  · rw [abs_of_nonneg hvalue]

/-- **A numeral has a finite double where it is below the bound**, and an infinite
one of its sign everywhere else. -/
theorem ofNumeral_cases (n : Numeral) :
    ((ofNumeral n).isFinite = true ∧ |n.value| < overflowBound) ∨
      (ofNumeral n = infinite n.negative ∧ (ofNumeral n).isFinite = false ∧
        overflowBound ≤ |n.value|) := by
  have hpos : (0 : ℚ) < n.magnitude.fraction.2 := Nat.cast_pos.2 n.magnitude.fraction_pos
  have hiff : binary64.nearest n.magnitude.fraction.1 n.magnitude.fraction.2 = none ↔
      overflowBound * n.magnitude.fraction.2 ≤ n.magnitude.fraction.1 :=
    Format.nearest_eq_none_iff n.magnitude.fraction_pos
  rw [abs_value, Decimal.value_eq, div_lt_iff₀ hpos, le_div_iff₀ hpos, ofNumeral,
    Format.nearestDecimal_eq]
  cases hnearest : binary64.nearest n.magnitude.fraction.1 n.magnitude.fraction.2 with
  | some u =>
    refine .inl ⟨isFinite_ofParts _ (bitsOfUnits_lt (Format.lt_of_nearest hnearest)), ?_⟩
    have hsmall : ¬ overflowBound * n.magnitude.fraction.2 ≤ n.magnitude.fraction.1 := by
      rw [← hiff, hnearest]
      exact Option.some_ne_none u
    exact_mod_cast Nat.lt_of_not_le hsmall
  | none =>
    refine .inr ⟨rfl, ?_, ?_⟩
    · cases n.negative <;> decide
    · exact_mod_cast hiff.1 hnearest

end Double

/-! ## 2. What each reader accepts -/

/-- The words for infinity and for what is no number, in any case. -/
def IsNumberWord (word : List Char) : Prop :=
  ∃ w ∈ ["inf", "infinity", "nan"], sameFolded word w.toList = true

theorem Double.readWord?_eq_none_iff (cs : List Char) :
    readWord? cs = none ↔ ¬ IsNumberWord (takeSign cs).2 := by
  have hword : IsNumberWord (takeSign cs).2 ↔
      (sameFolded (takeSign cs).2 "inf".toList || sameFolded (takeSign cs).2 "infinity".toList)
          = true ∨
        sameFolded (takeSign cs).2 "nan".toList = true := by
    simp only [IsNumberWord, List.mem_cons, List.not_mem_nil, or_false, exists_eq_or_imp,
      exists_eq_left, Bool.or_eq_true, or_assoc]
  rw [hword]
  simp only [readWord?]
  split_ifs with hinfinite hnan
  · exact iff_of_false not_false (fun hno => hno (.inl hinfinite))
  · exact iff_of_false not_false (fun hno => hno (.inr hnan))
  · exact iff_of_true rfl (not_or.2 ⟨hinfinite, hnan⟩)

/-- **Where a double is read, it is a numeral or a word that is read.** -/
theorem Double.isSome_read?_iff (cs : List Char) :
    (read? cs).isSome = true ↔
      (readNumeral? cs).isSome = true ∨ IsNumberWord (takeSign cs).2 := by
  have hword := readWord?_eq_none_iff cs
  rw [read?]
  cases h : readWord? cs with
  | some x =>
    refine iff_of_true rfl (.inr ?_)
    by_contra hno
    rw [hword.2 hno] at h
    cases h
  | none => simp [hword.1 h]

/-- The text of an integer is a numeral of the same value. -/
theorem readNumeral?_of_readInt? {cs : List Char} {n : Int} (h : readInt? cs = some n) :
    ∃ m, readNumeral? cs = some m ∧ m.value = n := by
  simp only [readInt?] at h
  cases hsign : takeSign cs with
  | mk negative rest =>
    cases hrest : readNat? rest with
    | none => simp [hsign, hrest] at h
    | some k =>
      have hn : (if negative then -(k : Int) else k) = n := by simpa [hsign, hrest] using h
      rw [readNat?, Option.ite_none_right_eq_some, Bool.and_eq_true, Bool.not_eq_true',
        List.all_eq_true] at hrest
      obtain ⟨⟨hne, hdigits⟩, hvalue⟩ := hrest
      refine ⟨⟨negative, ⟨k, 0⟩⟩, ?_, ?_⟩
      · simp only [readNumeral?, hsign]
        rw [List.takeWhile_eq_self_iff.2 hdigits, List.dropWhile_eq_nil_iff.2 hdigits]
        simpa [takeFraction, readExponent?, hne] using hvalue
      · rw [← hn]
        cases negative <;> simp [Numeral.value, Decimal.value]

theorem readInt?_of_readInt64? {cs : List Char} {n : Int64} (h : readInt64? cs = some n) :
    readInt? cs = some n.toInt := by
  rw [readInt64?] at h
  split at h
  · next m hm =>
    split at h
    · next hrange =>
      obtain ⟨hlow, hhigh⟩ := hrange
      cases h
      rw [hm, Int64.toInt_ofInt_of_le hlow hhigh]
    · cases h
  · cases h

end Number

/-! ## 3. What a statement shows -/

namespace Literal

theorem length_le_length_escapeChars (cs : List Char) :
    cs.length ≤ (escapeChars cs).length := by
  induction cs with
  | nil => exact le_rfl
  | cons c cs ih =>
    have hchar : 0 < (escapeChar c).length := by
      induction c using escapeChar_cases <;> simp
    rw [escapeChars_cons, List.length_cons, List.length_append]
    omega

/-- Quotes are added to a text. -/
theorem quote_ne (s : String) : quote s ≠ s := by
  intro h
  have hlength := congrArg (fun t : String => t.toList.length) h
  have hgrows := length_le_length_escapeChars s.toList
  simp only [quote, String.toList_append, toList_escape, List.length_append] at hlength
  have hquote : ("'" : String).toList.length = 1 := rfl
  omega

end Literal

namespace Value

/-- How the readers agree on a text `s`, whose ends are trimmed for all of them. -/
structure ReadAlike (s : String) : Prop where
  /-- Without quotes stands what is accepted as a number. -/
  unquoted_iff :
    (text s).literal = trim s ↔ Literal.isNumeric (trimChars s.toList) = true
  /-- That is what a double is read from, the words behind a sign apart. -/
  numeric_iff :
    Literal.isNumeric (trimChars s.toList) = true ↔
      (Double.read? (trimChars s.toList)).isSome = true ∧
        ¬ IsNumberWord (takeSign (trimChars s.toList)).2
  /-- An integer is such a number. -/
  numeric_of_integer :
    (readInt64? (trimChars s.toList)).isSome = true →
      Literal.isNumeric (trimChars s.toList) = true
  /-- A text that counts as a number stands without quotes. -/
  unquoted_of_number :
    (text s).int?.isSome = true ∨ (text s).float?.isSome = true → (text s).literal = trim s
  /-- A text without quotes that has no double is too large for one. -/
  float?_eq_none_iff :
    Literal.isNumeric (trimChars s.toList) = true →
      ((text s).float? = none ↔
        ∃ n, readNumeral? (trimChars s.toList) = some n ∧ overflowBound ≤ |n.value| ∧
          Double.read? (trimChars s.toList) = some (Double.infinite n.negative))

/-- A text is shown as a number or in quotes. -/
theorem literal_eq_trim_iff (s : String) :
    (text s).literal = trim s ↔ Literal.isNumeric (trimChars s.toList) = true := by
  rw [literal, Literal.ofText]
  split
  · next hnumeric => exact iff_of_true rfl hnumeric
  · next hno => exact iff_of_false (Literal.quote_ne _) hno

/-- **A text is shown as a number exactly where a double is read from it**, unless it
is one of the words. -/
theorem isNumeric_iff_isSome_read? (cs : List Char) :
    Literal.isNumeric cs = true ↔
      (Double.read? cs).isSome = true ∧ ¬ IsNumberWord (takeSign cs).2 := by
  rw [Literal.isNumeric_eq, Double.isSome_read?_iff]
  constructor
  · intro hnumeral
    exact ⟨.inl hnumeral,
      (Double.readWord?_eq_none_iff cs).1 (Double.readWord?_of_readNumeral? hnumeral)⟩
  · rintro ⟨hnumeral | hword, hno⟩
    · exact hnumeral
    · exact absurd hword hno

theorem isNumeric_of_readInt64? {cs : List Char} (h : (readInt64? cs).isSome = true) :
    Literal.isNumeric cs = true := by
  obtain ⟨n, hn⟩ := Option.isSome_iff_exists.1 h
  obtain ⟨m, hm, -⟩ := readNumeral?_of_readInt? (readInt?_of_readInt64? hn)
  rw [Literal.isNumeric_eq, hm, Option.isSome_some]

theorem isNumeric_of_float? {s : String} (h : (text s).float?.isSome = true) :
    Literal.isNumeric (trimChars s.toList) = true := by
  obtain ⟨x, hx⟩ := Option.isSome_iff_exists.1 h
  obtain ⟨n, hn, -, -⟩ := (float?_eq_some_iff (v := text s) trivial).1 hx
  rw [Literal.isNumeric_eq]
  exact Option.isSome_iff_exists.2 ⟨n, hn⟩

/-- **A number that is shown has no double exactly where it is rounded to infinity.** -/
theorem float?_eq_none_iff_of_numeral {s : String} {n : Numeral}
    (h : readNumeral? (trimChars s.toList) = some n) :
    (text s).float? = none ↔
      overflowBound ≤ |n.value| ∧
        Double.read? (trimChars s.toList) = some (Double.infinite n.negative) := by
  have hnumeral : (text s).numeral? = some n := h
  have hread : Double.read? (trimChars s.toList) = some (Double.ofNumeral n) := by
    rw [Double.read?, Double.readWord?_of_readNumeral? (Option.isSome_of_eq_some h), h]
    rfl
  rw [float?_eq (v := text s) trivial, hnumeral, Option.map_some, Option.filter_some, hread]
  rcases Double.ofNumeral_cases n with ⟨hfinite, hsmall⟩ | ⟨heq, hinfinite, hlarge⟩
  · rw [if_pos hfinite]
    exact iff_of_false (Option.some_ne_none _) (fun hno => (hno.1.trans_lt hsmall).false)
  · rw [hinfinite, heq]
    exact iff_of_true rfl ⟨hlarge, rfl⟩

/-- **The readers of numbers agree on every text.** -/
theorem readers_agree (s : String) : ReadAlike s where
  unquoted_iff := literal_eq_trim_iff s
  numeric_iff := isNumeric_iff_isSome_read? (trimChars s.toList)
  numeric_of_integer := isNumeric_of_readInt64?
  unquoted_of_number := by
    rintro (hint | hfloat)
    · exact (literal_eq_trim_iff s).2 (isNumeric_of_readInt64? hint)
    · exact (literal_eq_trim_iff s).2 (isNumeric_of_float? hfloat)
  float?_eq_none_iff := by
    intro hnumeric
    rw [Literal.isNumeric_eq] at hnumeric
    obtain ⟨n, hn⟩ := Option.isSome_iff_exists.1 hnumeric
    rw [float?_eq_none_iff_of_numeral hn]
    constructor
    · rintro ⟨hlarge, hread⟩
      exact ⟨n, hn, hlarge, hread⟩
    · rintro ⟨m, hm, hlarge, hread⟩
      obtain rfl : n = m := Option.some_inj.1 (hn.symm.trans hm)
      exact ⟨hlarge, hread⟩

/-- `-1e999` between blanks stands without quotes and has no double, and what is read
from it is infinite. -/
theorem readers_agree_of_overflow :
    Literal.isNumeric (trimChars " -1e999 ".toList) = true ∧
      (text " -1e999 ").literal = trim " -1e999 " ∧
      (text " -1e999 ").float? = none ∧
      ∃ n, readNumeral? (trimChars " -1e999 ".toList) = some n ∧ overflowBound ≤ |n.value| ∧
        Double.read? (trimChars " -1e999 ".toList) = some (Double.infinite n.negative) := by
  have hagree := readers_agree " -1e999 "
  have hnumeric : Literal.isNumeric (trimChars " -1e999 ".toList) = true := by decide
  have hnone : (text " -1e999 ").float? = none := by decide +kernel
  exact ⟨hnumeric, hagree.unquoted_iff.2 hnumeric, hnone,
    (hagree.float?_eq_none_iff hnumeric).1 hnone⟩

end Value

end SearchSql
