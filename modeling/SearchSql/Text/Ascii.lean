/-
SearchSql.Text.Ascii — the letters and digits of ASCII, and texts compared
without regard to their case.

Keywords, column names and number words are matched without regard to case,
but only for the twenty-six letters of ASCII: `É` and `é` stay different.
-/

namespace SearchSql.Text

/-- The letters `A` to `Z` and `a` to `z`. -/
def isLetter (c : Char) : Bool :=
  ('A' ≤ c && c ≤ 'Z') || ('a' ≤ c && c ≤ 'z')

/-- The digits `0` to `9`. -/
def isDigit (c : Char) : Bool :=
  '0' ≤ c && c ≤ '9'

/-- A letter or digit of ASCII, or the low line. -/
def isWordChar (c : Char) : Bool :=
  isLetter c || isDigit c || c == '_'

/-- The small letter of an ASCII capital; any other character is itself. -/
def fold (c : Char) : Char :=
  if 'A' ≤ c && c ≤ 'Z' then Char.ofNat (c.toNat + 32) else c

/-- Whether two texts differ at most in the case of ASCII letters. -/
def sameFolded (s t : List Char) : Bool :=
  s.map fold == t.map fold

/-- What follows `head` in a text that begins with it. -/
def after? : (head text : List Char) → Option (List Char)
  | [], text => some text
  | _ :: _, [] => none
  | a :: head, b :: text => if a = b then after? head text else none

/-- The parts of a text between the characters equal to `mark`; there is one
part more than there are marks. -/
def pieces (mark : Char) : List Char → List Char × List (List Char)
  | [] => ([], [])
  | c :: rest =>
    let (first, others) := pieces mark rest
    if c = mark then ([], first :: others) else (c :: first, others)

/-! ## Small facts -/

theorem isLetter_iff (c : Char) :
    isLetter c = true ↔ (65 ≤ c.toNat ∧ c.toNat ≤ 90) ∨ (97 ≤ c.toNat ∧ c.toNat ≤ 122) := by
  simp only [isLetter, Bool.or_eq_true, Bool.and_eq_true, decide_eq_true_eq, Char.le_def,
    UInt32.le_iff_toNat_le]
  rfl

theorem isDigit_iff (c : Char) : isDigit c = true ↔ 48 ≤ c.toNat ∧ c.toNat ≤ 57 := by
  simp only [isDigit, Bool.and_eq_true, decide_eq_true_eq, Char.le_def, UInt32.le_iff_toNat_le]
  rfl

theorem isWordChar_iff (c : Char) : isWordChar c = true ↔ c.isAlphanum = true ∨ c = '_' := by
  have halphanum : c.isAlphanum = true ↔
      ((65 ≤ c.toNat ∧ c.toNat ≤ 90) ∨ (97 ≤ c.toNat ∧ c.toNat ≤ 122)) ∨
        (48 ≤ c.toNat ∧ c.toNat ≤ 57) := by
    unfold Char.isAlphanum Char.isAlpha Char.isUpper Char.isLower Char.isDigit
    simp only [Bool.or_eq_true, Bool.and_eq_true, decide_eq_true_eq, UInt32.le_iff_toNat_le,
      ge_iff_le]
    rfl
  rw [isWordChar, Bool.or_eq_true, Bool.or_eq_true, isLetter_iff, isDigit_iff, beq_iff_eq,
    halphanum]

/-- The small letter of a capital is the one that the library has for it. -/
theorem fold_eq_toLower (c : Char) : fold c = c.toLower := by
  unfold Char.toLower
  have hiff : ('A' ≤ c && c ≤ 'Z') = true ↔ c.val ≥ 'A'.val ∧ c.val ≤ 'Z'.val := by
    rw [Bool.and_eq_true, decide_eq_true_eq, decide_eq_true_eq]
    rfl
  by_cases h : c.val ≥ 'A'.val ∧ c.val ≤ 'Z'.val
  · have hc : 65 ≤ c.toNat ∧ c.toNat ≤ 90 := by
      simp only [ge_iff_le, UInt32.le_iff_toNat_le] at h
      exact h
    have hvalid : (c.toNat + 32).isValidChar := .inl (by omega)
    rw [fold, if_pos (hiff.2 h), dif_pos h, Char.ofNat, dif_pos hvalid]
    apply Char.ext
    apply UInt32.toNat_inj.1
    rw [UInt32.toNat_add]
    show c.toNat + 32 = (c.toNat + 32) % 2 ^ 32
    omega
  · rw [fold, if_neg (fun hfold => h (hiff.1 hfold)), dif_neg h]

theorem sameFolded_toList_iff (s t : String) :
    sameFolded s.toList t.toList = true ↔ s.toLower = t.toLower := by
  have hfold : fold = Char.toLower := funext fold_eq_toLower
  rw [sameFolded, beq_iff_eq, hfold, ← String.toList_map, ← String.toList_map, String.toList_inj]
  rfl

theorem after?_eq_some_iff (head text rest : List Char) :
    after? head text = some rest ↔ text = head ++ rest := by
  induction head generalizing text with
  | nil => simp [after?]
  | cons a head ih =>
    cases text with
    | nil => simp [after?]
    | cons b text =>
      by_cases h : a = b
      · subst h; simp [after?, ih]
      · simp [after?, h, Ne.symm h]

/-- Put together again with the mark between them, the parts are the text. -/
theorem intercalate_pieces (mark : Char) (cs : List Char) :
    [mark].intercalate ((pieces mark cs).1 :: (pieces mark cs).2) = cs := by
  induction cs with
  | nil => rfl
  | cons c rest ih =>
    rcases hp : pieces mark rest with ⟨first, others⟩
    rw [hp] at ih
    by_cases h : c = mark
    · subst h
      simp only [pieces, hp, if_true]
      rw [List.intercalate_cons_cons, ih]
      rfl
    · simp only [pieces, hp, if_neg h]
      cases others with
      | nil => simpa [List.intercalate] using ih
      | cons p ps =>
        rw [List.intercalate_cons_cons] at ih ⊢
        simp [← ih]

theorem pieces_of_notMem {mark : Char} {cs : List Char} (h : mark ∉ cs) :
    pieces mark cs = (cs, []) := by
  induction cs with
  | nil => rfl
  | cons c rest ih =>
    rw [List.mem_cons, not_or] at h
    simp [pieces, ih h.2, Ne.symm h.1]

/-- A text is cut at its first mark. -/
theorem pieces_append_cons {mark : Char} {part : List Char} (h : mark ∉ part)
    (rest : List Char) :
    pieces mark (part ++ mark :: rest)
      = (part, (pieces mark rest).1 :: (pieces mark rest).2) := by
  induction part with
  | nil => simp [pieces]
  | cons c part ih =>
    rw [List.mem_cons, not_or] at h
    simp [pieces, ih h.2, Ne.symm h.1]

end SearchSql.Text
