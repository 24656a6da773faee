/-
SearchSql.Text.Cut — the start of a text that fits into a number of bytes.

Limits on error messages and on logged statements are given in bytes of
UTF-8. A text may be divided only between two characters, so the place is
looked for from the limit backwards, byte by byte, until no character is
divided any more.
-/

namespace SearchSql.Text

/-- Whether a text may be divided behind a number of its bytes. -/
def isBoundary (s : String) (bytes : Nat) : Bool :=
  String.Pos.Raw.isValid s ⟨bytes⟩

/-- The last place up to a number of bytes at which a text may be divided. -/
def boundaryBelow (s : String) : Nat → Nat
  | 0 => 0
  | bytes + 1 => if isBoundary s (bytes + 1) then bytes + 1 else boundaryBelow s bytes

/-- A text may be divided in front of its first byte. -/
@[simp] theorem isBoundary_zero (s : String) : isBoundary s 0 = true :=
  String.Pos.Raw.isValid_eq_true_iff.2 String.Pos.Raw.isValid_zero

/-- The search never stops inside of a character. -/
theorem isBoundary_boundaryBelow (s : String) :
    (bytes : Nat) → isBoundary s (boundaryBelow s bytes) = true
  | 0 => isBoundary_zero s
  | bytes + 1 => by
    unfold boundaryBelow
    split
    · assumption
    · exact isBoundary_boundaryBelow s bytes

/-- The first `budget` bytes of a text, or fewer where a character stands across
the limit. The position carries the proof that it divides no character. -/
def cut (budget : Nat) (s : String) : String :=
  if s.utf8ByteSize ≤ budget then s
  else s.extract s.startPos
    ⟨⟨boundaryBelow s budget⟩,
      String.Pos.Raw.isValid_eq_true_iff.1 (isBoundary_boundaryBelow s budget)⟩

/-- A text that fits into `budget` bytes as it is; a longer one is cut and
three dots show that something is missing. -/
def abridge (budget : Nat) (s : String) : String :=
  if s.utf8ByteSize ≤ budget then s else cut budget s ++ "..."

/-! ## Small facts -/

/-- The bytes of a text are those of its characters. -/
theorem utf8ByteSize_ofList_cons (c : Char) (cs : List Char) :
    (String.ofList (c :: cs)).utf8ByteSize = c.utf8Size + (String.ofList cs).utf8ByteSize := by
  rw [show c :: cs = [c] ++ cs from rfl, String.ofList_append, String.utf8ByteSize_append]
  simp

/-- A text may be divided exactly behind its starts. -/
theorem isBoundary_iff {s : String} {bytes : Nat} :
    isBoundary s bytes = true ↔ ∃ start rest, s = start ++ rest ∧ bytes = start.utf8ByteSize := by
  unfold isBoundary
  rw [String.Pos.Raw.isValid_eq_true_iff, String.Pos.Raw.isValid_iff_exists_append]
  simp only [String.Pos.Raw.ext_iff, String.byteIdx_rawEndPos]

theorem boundaryBelow_le (s : String) : (bytes : Nat) → boundaryBelow s bytes ≤ bytes
  | 0 => Nat.le_refl 0
  | bytes + 1 => by
    unfold boundaryBelow
    split
    · exact Nat.le_refl _
    · exact Nat.le_succ_of_le (boundaryBelow_le s bytes)

/-- The search passes over no place at which the text may be divided. -/
theorem le_boundaryBelow {s : String} {place : Nat} (h : isBoundary s place = true) :
    {bytes : Nat} → place ≤ bytes → place ≤ boundaryBelow s bytes
  | 0, hle => hle
  | bytes + 1, hle => by
    unfold boundaryBelow
    split
    · exact hle
    · next hno =>
      -- the search goes on, so the place cannot be where it stands
      have hne : place ≠ bytes + 1 := by
        rintro rfl
        exact hno h
      exact le_boundaryBelow h (by omega)

/-- A cut is made of the first bytes of the text. -/
theorem toByteArray_cut {budget : Nat} {s : String} (h : budget < s.utf8ByteSize) :
    (cut budget s).toByteArray = s.toByteArray.extract 0 (boundaryBelow s budget) := by
  unfold cut
  rw [if_neg (Nat.not_le.2 h), String.toByteArray_extract]
  rfl

theorem cut_of_le {budget : Nat} {s : String} (h : s.utf8ByteSize ≤ budget) : cut budget s = s :=
  if_pos h

/-- A text that is too long is divided where the search stops. -/
theorem exists_append_cut {budget : Nat} {s : String} (h : budget < s.utf8ByteSize) :
    (cut budget s).utf8ByteSize = boundaryBelow s budget ∧ ∃ rest, s = cut budget s ++ rest := by
  obtain ⟨start, rest, hs, hstart⟩ := isBoundary_iff.1 (isBoundary_boundaryBelow s budget)
  have hcut : cut budget s = start := by
    rw [← String.toByteArray_inj, toByteArray_cut h, hstart, hs, String.toByteArray_append,
      ← String.size_toByteArray, ByteArray.extract_append_eq_left rfl]
  rw [hcut, hstart]
  exact ⟨rfl, rest, hs⟩

end SearchSql.Text
