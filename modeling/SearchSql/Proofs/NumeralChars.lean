/-
SearchSql.Proofs.NumeralChars — the characters of written numbers.

Numbers stand in a statement without quotes: integers, finite doubles, and
texts that read as numbers. All of them are written with digits, signs, a
point and the letter `e`.
-/
import SearchSql.Literal

namespace SearchSql

open SearchSql.Number SearchSql.Text

/-- The characters of numbers in a statement. -/
def isNumeralChar (c : Char) : Bool :=
  isDigit c || c ∈ ['+', '-', '.', 'e', 'E']

theorem Number.isDigit_of_mem_natChars {n : Nat} {c : Char} (h : c ∈ natChars n) :
    isDigit c = true := by
  have hdigit : c.isDigit = true := Nat.isDigit_of_mem_toDigits (by decide) (by decide) h
  rw [isDigit_iff]
  simp only [Char.isDigit, Bool.and_eq_true, decide_eq_true_eq, ge_iff_le,
    UInt32.le_iff_toNat_le] at hdigit
  exact hdigit

theorem Number.exists_head_natChars (n : Nat) :
    ∃ c rest, natChars n = c :: rest ∧ isDigit c = true := by
  cases hcs : natChars n with
  | nil => exact absurd hcs Nat.toDigits_ne_nil
  | cons c rest =>
    have hc : c ∈ natChars n := by
      rw [hcs]
      exact List.mem_cons_self
    exact ⟨c, rest, rfl, isDigit_of_mem_natChars hc⟩

theorem Number.isEmpty_natChars (n : Nat) : (natChars n).isEmpty = false := by
  obtain ⟨c, rest, hcs, -⟩ := exists_head_natChars n
  rw [hcs]
  rfl

/-- Digits have the value that they were written for. -/
theorem Number.ofDigitChars_natChars (n : Nat) : Nat.ofDigitChars 10 (natChars n) 0 = n :=
  Nat.ofDigitChars_toDigits (by decide) (by decide)

/-- A text with the characters of numbers only. -/
def HasNumeralChars (cs : List Char) : Prop :=
  ∀ c ∈ cs, isNumeralChar c = true

namespace HasNumeralChars

theorem append {cs ds : List Char} (hc : HasNumeralChars cs) (hd : HasNumeralChars ds) :
    HasNumeralChars (cs ++ ds) :=
  fun c h => (List.mem_append.1 h).elim (hc c) (hd c)

theorem cons {c : Char} (hc : isNumeralChar c = true) {cs : List Char} (h : HasNumeralChars cs) :
    HasNumeralChars (c :: cs) :=
  List.forall_mem_cons.2 ⟨hc, h⟩

theorem of_subset {cs ds : List Char} (h : HasNumeralChars ds) (hsub : cs ⊆ ds) :
    HasNumeralChars cs :=
  fun c hc => h c (hsub hc)

theorem zeros (n : Nat) : HasNumeralChars (List.replicate n '0') := by
  intro c hc
  rw [List.eq_of_mem_replicate hc]
  decide

/-! ## 1. Integers -/

theorem natChars (n : Nat) : HasNumeralChars (natChars n) := by
  intro c hc
  simp [isNumeralChar, isDigit_of_mem_natChars hc]

theorem intChars (n : Int) : HasNumeralChars (intChars n) := by
  rw [Number.intChars]
  split
  · exact cons (by decide) (natChars n.natAbs)
  · exact natChars n.natAbs

/-! ## 2. Doubles -/

theorem significant (d : Decimal) : HasNumeralChars d.significant.1 := by
  simp only [Decimal.significant]
  split
  · exact cons (by decide) (by simp [HasNumeralChars])
  · refine (natChars d.digits).of_subset fun c hc => ?_
    rw [List.mem_reverse] at hc
    exact List.mem_reverse.1 ((List.dropWhile_sublist _).subset hc)

theorem plainChars {ds : List Char} (h : HasNumeralChars ds) (leading : Int) :
    HasNumeralChars (plainChars [] ds leading) := by
  simp only [Number.plainChars]
  split
  · exact cons (by decide) (cons (by decide) ((zeros _).append h))
  · split
    · exact (h.append (zeros _)).append (by simp [HasNumeralChars])
    · exact (h.of_subset (List.take_subset _ _)).append
        (cons (by decide) (h.of_subset (List.drop_subset _ _)))

/-- A finite double stands in a statement without a power of ten. -/
theorem display {x : Double} (h : x.isFinite = true) :
    HasNumeralChars (display.text x).toList := by
  have hnan : x.isNaN = false := by
    simp only [Double.isFinite, decide_eq_true_eq] at h
    simp only [Double.isNaN, decide_eq_false_iff_not]
    omega
  have hmagnitude : HasNumeralChars (Number.display.magnitudeChars x.units) :=
    plainChars (significant _) _
  rw [Layout.text, hnan, h]
  simp only [Bool.false_eq_true, if_false, if_true, String.toList_ofList]
  split
  · exact cons (by decide) hmagnitude
  · exact hmagnitude

/-! ## 3. Texts that read as numbers -/

theorem next_of_not_isNumeralChar {c : Char} (h : isNumeralChar c = false)
    (r : Literal.Reading) : r.next c = .refused := by
  simp only [isNumeralChar, Bool.or_eq_false_iff, decide_eq_false_iff_not, List.mem_cons,
    List.not_mem_nil, or_false, not_or] at h
  obtain ⟨hdigit, hplus, hminus, hpoint, he, hE⟩ := h
  simp [Literal.Reading.next, hdigit, hplus, hminus, hpoint, he, hE]

/-- A refused text stays refused. -/
theorem foldl_refused (cs : List Char) :
    cs.foldl Literal.Reading.next .refused = .refused := by
  induction cs with
  | nil => rfl
  | cons c cs ih =>
    have hc : Literal.Reading.refused.next c = .refused := by
      simp [Literal.Reading.next]
    rw [List.foldl_cons, hc, ih]

theorem of_isComplete_foldl : ∀ {cs : List Char} {r : Literal.Reading},
    (cs.foldl Literal.Reading.next r).isComplete = true → HasNumeralChars cs
  | [], _, _ => by simp [HasNumeralChars]
  | c :: cs, r, h => by
      cases hc : isNumeralChar c with
      | true => exact cons hc (of_isComplete_foldl h)
      | false =>
        rw [List.foldl_cons, next_of_not_isNumeralChar hc, foldl_refused] at h
        cases h

theorem of_isNumeric {cs : List Char} (h : Literal.isNumeric cs = true) : HasNumeralChars cs :=
  of_isComplete_foldl h

end HasNumeralChars

end SearchSql
