/-
SearchSql.Proofs.LongestStarts — what is left of a text that is too long.

Limits are given in bytes and a character takes one to four of them, so that a
limit may stand inside of a character. A cut goes back to the last place at
which nothing is divided, and keeps what stands in front of it.

* `StepsBack` — the search for that place, one byte after the other. It takes an
  end for every text and every limit (`stepsBack_iff`).
* `LongestStart` — the longest start of a text in whole characters. There is one
  (`longestStart_cut`) and no other (`LongestStart.unique`), and it leaves less
  than four bytes of the limit unused (`LongestStart.lt_add_four`).
* `Abridged` — a text that fits, or the longest start with three dots behind it.
* `cut_is_longest_start` — the cut, and with it the texts of failures and the
  statements in notices. That a statement is shown as it is does not mean that it
  fits (`not_shown_eq_self_iff`).
-/
import Mathlib.Data.List.Infix
import SearchSql.Execution.Monitor

namespace SearchSql.Text

/-! ## 1. The search -/

/-- One byte is taken back after the other, until the start of the text is reached
or a place at which it may be divided. -/
inductive StepsBack (s : String) : (bytes stop : Nat) → Prop
  /-- The search ends here. -/
  | done {bytes : Nat} (h : bytes = 0 ∨ isBoundary s bytes = true) : StepsBack s bytes bytes
  /-- A character would be divided here. -/
  | back {bytes stop : Nat} (hpos : 0 < bytes) (h : isBoundary s bytes = false)
    (rest : StepsBack s (bytes - 1) stop) : StepsBack s bytes stop

/-- **The search ends for every text and every limit**, at one place only. -/
theorem stepsBack_iff {s : String} {bytes stop : Nat} :
    StepsBack s bytes stop ↔ stop = boundaryBelow s bytes := by
  constructor
  · intro h
    induction h with
    | @done bytes h =>
      cases bytes with
      | zero => rfl
      | succ bytes =>
        have hhere : isBoundary s (bytes + 1) = true := h.resolve_left (Nat.succ_ne_zero bytes)
        unfold boundaryBelow
        rw [if_pos hhere]
    | @back bytes stop hpos h rest ih =>
      obtain ⟨bytes, rfl⟩ := Nat.exists_eq_succ_of_ne_zero hpos.ne'
      unfold boundaryBelow
      rw [h, if_neg Bool.false_ne_true]
      exact ih
  · rintro rfl
    induction bytes with
    | zero => exact .done (.inl rfl)
    | succ bytes ih =>
      unfold boundaryBelow
      split
      · next h => exact .done (.inr h)
      · next h => exact .back (Nat.succ_pos bytes) (Bool.eq_false_iff.2 h) ih

/-! ## 2. Longest starts -/

/-- The longest start of a text, in whole characters, within a number of bytes. -/
structure LongestStart (budget : Nat) (s start : String) : Prop where
  isPrefix : start.toList <+: s.toList
  fits : start.utf8ByteSize ≤ budget
  longest : ∀ other : String, other.toList <+: s.toList → other.utf8ByteSize ≤ budget →
    other.toList <+: start.toList

section Starts

variable {budget : Nat} {s start other : String}

theorem exists_append_of_isPrefix (h : start.toList <+: s.toList) : ∃ rest, s = start ++ rest := by
  obtain ⟨rest, hrest⟩ := h
  refine ⟨String.ofList rest, ?_⟩
  rw [← String.toList_inj, String.toList_append, String.toList_ofList, hrest]

theorem isPrefix_append (start rest : String) : start.toList <+: (start ++ rest).toList := by
  rw [String.toList_append]
  exact List.prefix_append _ _

/-- Of two starts of a text, the one with fewer bytes is a start of the other. -/
theorem isPrefix_of_utf8ByteSize_le (ho : other.toList <+: s.toList)
    (hs : start.toList <+: s.toList) (h : other.utf8ByteSize ≤ start.utf8ByteSize) :
    other.toList <+: start.toList := by
  obtain hshort | hlong := List.prefix_or_prefix_of_prefix ho hs
  · exact hshort
  · obtain ⟨more, rfl⟩ := exists_append_of_isPrefix hlong
    -- what the other has more takes no bytes, so that there is nothing
    have hnone : more.utf8ByteSize = 0 := by
      rw [String.utf8ByteSize_append] at h
      omega
    rw [String.utf8ByteSize_eq_zero_iff.1 hnone, String.append_empty]

/-- A text that is too long is cut to its longest start, and so is one that fits. -/
theorem longestStart_cut (budget : Nat) (s : String) : LongestStart budget s (cut budget s) := by
  by_cases hs : s.utf8ByteSize ≤ budget
  · rw [cut_of_le hs]
    exact ⟨List.prefix_refl _, hs, fun _ hother _ => hother⟩
  · obtain ⟨hsize, rest, happend⟩ := exists_append_cut (Nat.lt_of_not_le hs)
    have hstart : (cut budget s).toList <+: s.toList := by
      have h := isPrefix_append (cut budget s) rest
      rwa [← happend] at h
    refine ⟨hstart, ?_, ?_⟩
    · rw [hsize]
      exact boundaryBelow_le s budget
    · intro other hother hfits
      obtain ⟨more, hmore⟩ := exists_append_of_isPrefix hother
      have hplace : isBoundary s other.utf8ByteSize = true :=
        isBoundary_iff.2 ⟨other, more, hmore, rfl⟩
      refine isPrefix_of_utf8ByteSize_le hother hstart ?_
      rw [hsize]
      exact le_boundaryBelow hplace hfits

namespace LongestStart

theorem unique (h : LongestStart budget s start) (h' : LongestStart budget s other) :
    start = other := by
  have hshort := h'.longest start h.isPrefix h.fits
  have hlong := h.longest other h'.isPrefix h'.fits
  exact String.toList_inj.1 (hshort.eq_of_length_le hlong.length_le)

/-- Nothing is left out of a text exactly if it fits. -/
theorem eq_self_iff (h : LongestStart budget s start) : start = s ↔ s.utf8ByteSize ≤ budget := by
  constructor
  · rintro rfl
    exact h.fits
  · intro hs
    exact h.unique ⟨List.prefix_refl _, hs, fun _ hother _ => hother⟩

/-- Less than one character of four bytes is missing to the limit. -/
theorem lt_add_four (h : LongestStart budget s start) (hs : budget < s.utf8ByteSize) :
    budget < start.utf8ByteSize + 4 := by
  obtain ⟨rest, hrest⟩ := h.isPrefix
  cases rest with
  | nil =>
    have hwhole : start = s := by rwa [List.append_nil, String.toList_inj] at hrest
    exact absurd (h.eq_self_iff.1 hwhole) (Nat.not_le.2 hs)
  | cons c rest =>
    -- with its next character the start does not fit any more
    have hnext : (start ++ String.singleton c).toList <+: s.toList := by
      refine ⟨rest, ?_⟩
      rw [String.toList_append, String.toList_singleton, List.append_assoc, ← hrest]
      rfl
    have hbig : ¬ (start ++ String.singleton c).utf8ByteSize ≤ budget := by
      intro hfits
      have hle := (h.longest _ hnext hfits).length_le
      rw [String.toList_append, String.toList_singleton, List.length_append,
        List.length_singleton] at hle
      omega
    rw [String.utf8ByteSize_append, String.utf8ByteSize_singleton] at hbig
    have hfour := c.utf8Size_le_four
    omega

end LongestStart

end Starts

/-! ## 3. Abridged texts -/

/-- What is shown of a text that may take a number of bytes. -/
structure Abridged (budget : Nat) (s shown : String) : Prop where
  /-- A text that fits is shown as it is. -/
  whole : s.utf8ByteSize ≤ budget → shown = s
  /-- Something is left out of any other. -/
  dotted : budget < s.utf8ByteSize →
    ∃ start, LongestStart budget s start ∧ start ≠ s ∧ shown = start ++ "..."
  /-- A text that does not fit looks the same only if what is left out of it are three
  dots at its end. -/
  same : shown = s ↔
    s.utf8ByteSize ≤ budget ∨ ∃ start, LongestStart budget s start ∧ s = start ++ "..."
  size_le : shown.utf8ByteSize ≤ budget + 3

theorem abridged_abridge (budget : Nat) (s : String) : Abridged budget s (abridge budget s) := by
  have hcut := longestStart_cut budget s
  unfold abridge
  split
  · next hs =>
    refine ⟨fun _ => rfl, fun hlong => absurd hs (Nat.not_le.2 hlong), ?_, by omega⟩
    exact iff_of_true rfl (.inl hs)
  · next hs =>
    refine ⟨fun hfits => absurd hfits hs, fun _ => ⟨_, hcut, ?_, rfl⟩, ?_, ?_⟩
    · exact fun hself => hs (hcut.eq_self_iff.1 hself)
    · constructor
      · intro hsame
        exact .inr ⟨_, hcut, hsame.symm⟩
      · rintro (hfits | ⟨start, hstart, hdots⟩)
        · exact absurd hfits hs
        · rw [hcut.unique hstart, ← hdots]
    · rw [String.utf8ByteSize_append]
      exact Nat.add_le_add_right hcut.fits 3

/-- **A cut keeps the longest start of a text in whole characters.** The search for
its end stops, for every text and every limit, at one place, which divides no
character. Of a text that is too long the bytes in front of it are kept, and it is
less than one character of four bytes away from the limit. A failure so keeps a text
of at most 512 bytes, and of a longer one the longest start with three dots, 515
bytes at most; a notice keeps a statement within the limit of its writer in the same
way, so that a longer one looks unchanged only if three dots are left out of it. -/
theorem cut_is_longest_start (s : String) (max : Nat) :
    LongestStart max s (cut max s) ∧
      (∃ stop, ∀ place, StepsBack s max place ↔ place = stop) ∧
      (∀ stop, StepsBack s max stop → isBoundary s stop = true ∧ stop ≤ max ∧
        (max < s.utf8ByteSize →
          max < stop + 4 ∧ (cut max s).toByteArray = s.toByteArray.extract 0 stop)) ∧
      (∃ kept, Outcome.failure s = .failed kept ∧ Abridged 512 s kept ∧
        kept.utf8ByteSize ≤ 515) ∧
      ∀ minimum, Abridged max s (NoticeWriter.shown ⟨minimum, some max⟩ s) := by
  refine ⟨longestStart_cut max s, ⟨_, fun place => stepsBack_iff⟩, ?_, ?_, ?_⟩
  · intro stop hstop
    rw [stepsBack_iff.1 hstop]
    refine ⟨isBoundary_boundaryBelow s max, boundaryBelow_le s max, fun hlong => ?_⟩
    have hfour := (longestStart_cut max s).lt_add_four hlong
    rw [(exists_append_cut hlong).1] at hfour
    exact ⟨hfour, toByteArray_cut hlong⟩
  · have hkept := abridged_abridge 512 s
    exact ⟨_, rfl, hkept, hkept.size_le⟩
  · intro minimum
    exact abridged_abridge max s

/-- A limit of eight bytes stands inside of the `é`. -/
theorem cut_is_longest_start_inside_character :
    isBoundary "MATCH('é')" 8 = false ∧ StepsBack "MATCH('é')" 8 7 ∧
      LongestStart 8 "MATCH('é')" "MATCH('" ∧
      NoticeWriter.shown ⟨none, some 8⟩ "MATCH('é')" = "MATCH('..." := by
  obtain ⟨hcut, -, -, -, hshown⟩ := cut_is_longest_start "MATCH('é')" 8
  have hstart : cut 8 "MATCH('é')" = "MATCH('" := by decide
  rw [hstart] at hcut
  obtain ⟨start, hlongest, -, hdots⟩ := (hshown none).dotted (by decide)
  rw [← hcut.unique hlongest] at hdots
  exact ⟨by decide, stepsBack_iff.2 (by decide), hcut, hdots⟩

/-- A statement that ends in three dots may look unchanged though it is too long:
of `abc...` three bytes are kept, and the dots stand for the dots. -/
theorem not_shown_eq_self_iff :
    "abc...".utf8ByteSize = 6 ∧ NoticeWriter.shown ⟨none, some 3⟩ "abc..." = "abc..." ∧
      ¬ ∀ (s : String) (max : Nat),
        NoticeWriter.shown ⟨none, some max⟩ s = s ↔ s.utf8ByteSize ≤ max := by
  have hsame : NoticeWriter.shown ⟨none, some 3⟩ "abc..." = "abc..." := by decide
  refine ⟨by decide, hsame, fun hfits => ?_⟩
  exact absurd ((hfits "abc..." 3).1 hsame) (by decide)

end SearchSql.Text
