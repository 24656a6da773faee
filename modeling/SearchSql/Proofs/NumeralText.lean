/-
SearchSql.Proofs.NumeralText — the texts that stand for numbers.

Whether a text stands in a statement without quotes is decided character by
character. Which double is compared in a range is read off the text part by
part: a sign, digits, a point with digits behind it, a power of ten. The two
agree on which texts are numbers.

* `Literal.isNumeric_eq` — a text is a number in a statement where it is read
  as a numeral, and only there.
* `Numeral.value` — the number that a numeral stands for, exactly.
* `Value.numeral?` — the numeral that the literal of a value shows
  (`Value.readNumeral?_literal`).
-/
import Mathlib
import SearchSql.Literal
import SearchSql.Proofs.NumeralChars

namespace SearchSql

open SearchSql.Number SearchSql.Text

/-! ## 1. Which texts are numbers -/

namespace Literal

/-- Digits leave a reading where it is if each of them does. -/
theorem foldl_next_dropWhile {r : Reading} (h : ∀ c, isDigit c = true → r.next c = r)
    (cs : List Char) :
    cs.foldl Reading.next r = (cs.dropWhile isDigit).foldl Reading.next r := by
  induction cs with
  | nil => rfl
  | cons c cs ih =>
    cases hc : isDigit c with
    | true => rw [List.foldl_cons, h c hc, ih, List.dropWhile_cons_of_pos hc]
    | false => rw [List.dropWhile_cons_of_neg (by simp [hc])]

/-- What follows digits does not begin with one. -/
theorem isDigit_head_dropWhile {cs rest : List Char} {c : Char}
    (h : cs.dropWhile isDigit = c :: rest) : isDigit c = false := by
  have hhead := List.head?_dropWhile_not isDigit cs
  rw [h] at hhead
  simpa using hhead

theorem isSome_readNat? (cs : List Char) :
    (readNat? cs).isSome = (!cs.isEmpty && cs.all isDigit) := by
  rw [readNat?]
  cases !cs.isEmpty && cs.all isDigit <;> rfl

theorem takeSign_cons {c : Char} (hplus : c ≠ '+') (hminus : c ≠ '-') (rest : List Char) :
    takeSign (c :: rest) = (false, c :: rest) := by
  rw [takeSign]
  all_goals
    intros
    simp_all

/-- The digits of a power of ten go on to the end. -/
theorem isComplete_power (cs : List Char) :
    (cs.foldl Reading.next .power).isComplete = cs.all isDigit := by
  induction cs with
  | nil => rfl
  | cons c cs ih =>
    cases hc : isDigit c with
    | true => simpa [Reading.next, hc] using ih
    | false =>
      have hrefused : Reading.power.next c = .refused := by simp [Reading.next, hc]
      rw [List.foldl_cons, hrefused, HasNumeralChars.foldl_refused, List.all_cons, hc]
      rfl

theorem isComplete_markSign (cs : List Char) :
    (cs.foldl Reading.next .markSign).isComplete = (readNat? cs).isSome := by
  rw [isSome_readNat?]
  cases cs with
  | nil => rfl
  | cons c cs =>
    cases hc : isDigit c with
    | true =>
      have hpower : Reading.markSign.next c = .power := by simp [Reading.next, hc]
      simp [hpower, isComplete_power, hc]
    | false =>
      have hrefused : Reading.markSign.next c = .refused := by simp [Reading.next, hc]
      simp [hrefused, HasNumeralChars.foldl_refused, Reading.isComplete, hc]

/-- Behind the letter `e` there is an integer. -/
theorem isComplete_mark (cs : List Char) :
    (cs.foldl Reading.next .mark).isComplete = (readInt? cs).isSome := by
  have hread : (readInt? cs).isSome = (readNat? (takeSign cs).2).isSome := by
    rw [readInt?]
    rcases takeSign cs with ⟨negative, rest⟩
    cases hrest : readNat? rest <;> simp [hrest]
  rw [hread]
  cases cs with
  | nil => rfl
  | cons c cs =>
    by_cases hplus : c = '+'
    · subst hplus
      exact isComplete_markSign cs
    by_cases hminus : c = '-'
    · subst hminus
      exact isComplete_markSign cs
    rw [takeSign_cons hplus hminus, isSome_readNat?]
    cases hc : isDigit c with
    | true =>
      have hpower : Reading.mark.next c = .power := by simp [Reading.next, hc]
      simp [hpower, isComplete_power, hc]
    | false =>
      have hrefused : Reading.mark.next c = .refused := by
        simp [Reading.next, hc, hplus, hminus]
      simp [hrefused, HasNumeralChars.foldl_refused, Reading.isComplete, hc]

/-- Behind the digits of a number there is nothing or a power of ten. A point
can follow only where none was before. -/
theorem isComplete_tail {r : Reading} (hr : r = .whole ∨ r = .fraction) {cs : List Char}
    (hdigit : ∀ c ∈ cs.head?, isDigit c = false)
    (hpoint : r = .whole → ∀ c ∈ cs.head?, c ≠ '.') :
    (cs.foldl Reading.next r).isComplete = (readExponent? cs).isSome := by
  cases cs with
  | nil => rcases hr with rfl | rfl <;> rfl
  | cons c cs =>
    have hc : isDigit c = false := hdigit c rfl
    rw [List.foldl_cons, readExponent?]
    by_cases he : c = 'e' ∨ c = 'E'
    · have hmark : r.next c = .mark := by
        rcases hr with rfl | rfl <;> rcases he with rfl | rfl <;> rfl
      rw [hmark, if_pos he, isComplete_mark]
    · have hrefused : r.next c = .refused := by
        rcases hr with rfl | rfl
        · simp [Reading.next, hc, hpoint rfl c rfl, he]
        · simp [Reading.next, hc, he]
      rw [hrefused, if_neg he, HasNumeralChars.foldl_refused]
      rfl

theorem isComplete_fraction (cs : List Char) :
    (cs.foldl Reading.next .fraction).isComplete
      = (readExponent? (cs.dropWhile isDigit)).isSome := by
  rw [foldl_next_dropWhile (fun c hc => by simp [Reading.next, hc])]
  refine isComplete_tail (.inr rfl) (fun c hc => ?_) (by simp)
  cases hrest : cs.dropWhile isDigit with
  | nil => simp [hrest] at hc
  | cons d rest =>
    obtain rfl : d = c := by simpa [hrest] using hc
    exact isDigit_head_dropWhile hrest

theorem isComplete_whole (cs : List Char) :
    (cs.foldl Reading.next .whole).isComplete
      = (readExponent? (takeFraction (cs.dropWhile isDigit)).2).isSome := by
  rw [foldl_next_dropWhile (fun c hc => by simp [Reading.next, hc])]
  cases hrest : cs.dropWhile isDigit with
  | nil => rfl
  | cons c rest =>
    by_cases hpoint : c = '.'
    · subst hpoint
      exact isComplete_fraction rest
    · have hfraction : takeFraction (c :: rest) = ([], c :: rest) := by
        rw [takeFraction]
        intros
        simp_all
      rw [hfraction]
      refine isComplete_tail (.inl rfl) ?_ ?_
      · rintro d ⟨⟩
        exact isDigit_head_dropWhile hrest
      · rintro - d ⟨⟩
        exact hpoint

theorem isComplete_bare (cs : List Char) :
    (cs.foldl Reading.next .bare).isComplete
      = (!(cs.takeWhile isDigit).isEmpty && (readExponent? (cs.dropWhile isDigit)).isSome) := by
  cases cs with
  | nil => rfl
  | cons c cs =>
    cases hc : isDigit c with
    | true =>
      have hfraction : Reading.bare.next c = .fraction := by simp [Reading.next, hc]
      simp [hfraction, isComplete_fraction, hc]
    | false =>
      have hrefused : Reading.bare.next c = .refused := by simp [Reading.next, hc]
      simp [hrefused, HasNumeralChars.foldl_refused, Reading.isComplete, hc]

/-- A numeral without its sign: digits before or behind the point, and a power of
ten. -/
theorem isSome_readNumeral? (cs : List Char) :
    (readNumeral? cs).isSome =
      (!(((takeSign cs).2.takeWhile isDigit).isEmpty
          && (takeFraction ((takeSign cs).2.dropWhile isDigit)).1.isEmpty)
        && (readExponent? (takeFraction ((takeSign cs).2.dropWhile isDigit)).2).isSome) := by
  simp only [readNumeral?]
  split
  · next h => simp [h]
  · next h =>
    rw [Option.isSome_map]
    simp [h]

theorem isComplete_sign (cs : List Char) :
    (cs.foldl Reading.next .sign).isComplete =
      (!((cs.takeWhile isDigit).isEmpty && (takeFraction (cs.dropWhile isDigit)).1.isEmpty)
        && (readExponent? (takeFraction (cs.dropWhile isDigit)).2).isSome) := by
  cases cs with
  | nil => rfl
  | cons c cs =>
    cases hc : isDigit c with
    | true =>
      have hwhole : Reading.sign.next c = .whole := by simp [Reading.next, hc]
      simp [hwhole, isComplete_whole, hc]
    | false =>
      rw [List.takeWhile_cons_of_neg (by simp [hc]), List.dropWhile_cons_of_neg (by simp [hc])]
      by_cases hpoint : c = '.'
      · subst hpoint
        exact isComplete_bare cs
      · have hfraction : takeFraction (c :: cs) = ([], c :: cs) := by
          rw [takeFraction]
          intros
          simp_all
        have hrefused : Reading.sign.next c = .refused := by simp [Reading.next, hc, hpoint]
        rw [List.foldl_cons, hrefused, HasNumeralChars.foldl_refused, hfraction]
        rfl

/-- **A text stands in a statement as a number exactly where it is read as a
numeral.** -/
theorem isNumeric_eq (cs : List Char) : isNumeric cs = (readNumeral? cs).isSome := by
  rw [isNumeric, isSome_readNumeral?]
  cases cs with
  | nil => rfl
  | cons c cs =>
    by_cases hplus : c = '+'
    · subst hplus
      exact isComplete_sign cs
    by_cases hminus : c = '-'
    · subst hminus
      exact isComplete_sign cs
    have hnext : Reading.start.next c = Reading.sign.next c := by
      simp [Reading.next, hplus, hminus]
    rw [List.foldl_cons, hnext, ← List.foldl_cons, isComplete_sign,
      takeSign_cons hplus hminus]

end Literal

namespace Number

/-- A numeral begins with a digit or a point behind its sign. -/
theorem head_of_readNumeral? {cs : List Char} (h : (readNumeral? cs).isSome = true) :
    ∃ c rest, (takeSign cs).2 = c :: rest ∧ (isDigit c = true ∨ c = '.') := by
  rw [Literal.isSome_readNumeral?, Bool.and_eq_true] at h
  cases hcs : (takeSign cs).2 with
  | nil => simp [hcs, takeFraction] at h
  | cons c rest =>
    refine ⟨c, rest, rfl, ?_⟩
    by_contra hneither
    obtain ⟨hdigit, hpoint⟩ := not_or.1 hneither
    have hfraction : takeFraction (c :: rest) = ([], c :: rest) := by
      rw [takeFraction]
      intros
      simp_all
    rw [hcs, List.takeWhile_cons_of_neg hdigit, List.dropWhile_cons_of_neg hdigit,
      hfraction] at h
    simp at h

/-- No word is a numeral. -/
theorem Double.readWord?_of_readNumeral? {cs : List Char}
    (h : (readNumeral? cs).isSome = true) : readWord? cs = none := by
  obtain ⟨c, rest, hcs, hc⟩ := head_of_readNumeral? h
  have hfold : fold c = c := by
    rw [fold, if_neg]
    rcases hc with hc | rfl
    · rw [isDigit_iff] at hc
      simp only [Bool.and_eq_true, decide_eq_true_eq, Char.le_def, UInt32.le_iff_toNat_le]
      rintro ⟨hlow, -⟩
      have : (65 : Nat) ≤ c.toNat := hlow
      omega
    · decide
  have hword : ∀ d word, isDigit d = false → d ≠ '.' → fold d = d →
      sameFolded (c :: rest) (d :: word) = false := by
    intro d word hdigit hpoint hd
    rw [sameFolded, beq_eq_false_iff_ne]
    intro heq
    rw [List.map_cons, List.map_cons, hfold, hd] at heq
    obtain rfl := (List.cons.inj heq).1
    rcases hc with hc | rfl
    · exact absurd hc (by simp [hdigit])
    · exact hpoint rfl
  have hinf : sameFolded (c :: rest) "inf".toList = false := hword 'i' _ rfl (by decide) rfl
  have hinfinity : sameFolded (c :: rest) "infinity".toList = false :=
    hword 'i' _ rfl (by decide) rfl
  have hnan : sameFolded (c :: rest) "nan".toList = false := hword 'n' _ rfl (by decide) rfl
  simp only [readWord?, hcs, hinf, hinfinity, hnan, Bool.or_false, Bool.false_eq_true, if_false]

end Number

/-! ## 2. The numbers they stand for -/

/-- The number that a decimal denotes. -/
def Number.Decimal.value (d : Decimal) : ℚ :=
  d.digits * (10 : ℚ) ^ d.exponent

namespace Number.Numeral

/-- The number that a numeral denotes. -/
def value (n : Numeral) : ℚ :=
  if n.negative then -n.magnitude.value else n.magnitude.value

/-- An integer as a numeral. -/
def ofInt (n : Int) : Numeral :=
  ⟨n < 0, ⟨n.natAbs, 0⟩⟩

theorem value_ofInt (n : Int) : (ofInt n).value = n := by
  rcases lt_or_ge n 0 with hn | hn
  · have habs : (n.natAbs : ℚ) = -n := by
      rw [← Int.cast_natCast, Int.ofNat_natAbs_of_nonpos hn.le, Int.cast_neg]
    simp [value, ofInt, Decimal.value, hn, habs]
  · have habs : (n.natAbs : ℚ) = n := by
      rw [← Int.cast_natCast, Int.natAbs_of_nonneg hn]
    simp [value, ofInt, Decimal.value, not_lt.2 hn, habs]

end Number.Numeral

namespace Number

/-- Digits are read as the number they were written for. -/
theorem readNumeral?_digits {cs : List Char} {negative : Bool} {n : Nat}
    (h : takeSign cs = (negative, natChars n)) :
    readNumeral? cs = some ⟨negative, ⟨n, 0⟩⟩ := by
  have hdigits : ∀ c ∈ natChars n, isDigit c = true := fun c hc => isDigit_of_mem_natChars hc
  simp only [readNumeral?, h]
  rw [List.takeWhile_eq_self_iff.2 hdigits, List.dropWhile_eq_nil_iff.2 hdigits]
  simp [takeFraction, readExponent?, isEmpty_natChars, ofDigitChars_natChars]

theorem readNumeral?_natChars (n : Nat) : readNumeral? (natChars n) = some (.ofInt n) := by
  have hsign : takeSign (natChars n) = (false, natChars n) := by
    obtain ⟨c, rest, hcs, hc⟩ := exists_head_natChars n
    rw [hcs]
    refine Literal.takeSign_cons ?_ ?_ rest <;> rintro rfl <;> exact absurd hc (by decide)
  rw [readNumeral?_digits hsign]
  simp [Numeral.ofInt]

theorem readNumeral?_intChars (n : Int) : readNumeral? (intChars n) = some (.ofInt n) := by
  rw [intChars]
  split
  · next hn =>
    rw [readNumeral?_digits (rfl : takeSign ('-' :: natChars n.natAbs) = (true, _))]
    simp [Numeral.ofInt, hn]
  · next hn =>
    rw [readNumeral?_natChars, Int.natAbs_of_nonneg (not_lt.1 hn)]

end Number

/-! ## 3. Literals -/

namespace Value

/-- The numeral that the literal of an integer or of a text shows. A text without
one is quoted. -/
def numeral? : Value → Option Numeral
  | .int n => some (.ofInt n.toInt)
  | .text s => readNumeral? (trimChars s.toList)
  | .null | .float _ => none

theorem readNumeral?_literal {v : Value} {n : Numeral} (h : v.numeral? = some n) :
    readNumeral? v.literal.toList = some n := by
  cases v with
  | null => cases h
  | float x => cases h
  | int k =>
    rw [literal, intText, String.toList_ofList, readNumeral?_intChars]
    exact h
  | text s =>
    have hread : readNumeral? (trimChars s.toList) = some n := h
    rw [literal, Literal.ofText, Literal.isNumeric_eq, hread, Option.isSome_some, if_pos rfl,
      toList_trim, hread]

theorem literal_of_numeral?_eq_none {s : String} (h : (text s).numeral? = none) :
    (text s).literal = Literal.quote (trim s) := by
  have hread : readNumeral? (trimChars s.toList) = none := h
  rw [literal, Literal.ofText, Literal.isNumeric_eq, hread]
  rfl

end Value

end SearchSql
