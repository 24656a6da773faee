/-
SearchSql.Proofs.CheckedNames — the names that pass the checks of names.

A field name that is not refused is not empty and has only the characters of
field expressions. An index list that is not refused is not empty and has only
letters, digits, low lines, commas and white space. Every later fact about the
text of a statement takes from names no more than that.
-/
import SearchSql.Name

namespace SearchSql

open SearchSql.Text

/-! ## 1. Checks in a row -/

theorem bind_eq_ok_iff {x : Except ε α} {f : α → Except ε β} {b : β} :
    x >>= f = .ok b ↔ ∃ a, x = .ok a ∧ f a = .ok b := by
  cases x <;> simp [bind, Except.bind]

theorem bind_eq_error_iff {x : Except ε α} {f : α → Except ε β} {e : ε} :
    x >>= f = .error e ↔ x = .error e ∨ ∃ a, x = .ok a ∧ f a = .error e := by
  cases x <;> simp [bind, Except.bind]

theorem map_eq_ok_iff {x : Except ε α} {f : α → β} {b : β} :
    x.map f = .ok b ↔ ∃ a, x = .ok a ∧ f a = b := by
  cases x <;> simp [Except.map]

theorem map_eq_error_iff {x : Except ε α} {f : α → β} {e : ε} :
    x.map f = .error e ↔ x = .error e := by
  cases x <;> simp [Except.map]

/-- A refusal in front of a result. -/
theorem unless_eq_ok_iff {refuses : Bool} {e : ε} {a b : α} :
    (if refuses then .error e else .ok a : Except ε α) = .ok b ↔ refuses = false ∧ b = a := by
  cases refuses <;> simp [eq_comm]

namespace Name

/-! ## 2. Fields -/

/-- A clean field name. -/
structure IsField (name : String) : Prop where
  ne_empty : name ≠ ""
  chars : ∀ c ∈ name.toList, isFieldChar c = true

theorem field_eq_ok_iff {s name : String} :
    field s = .ok name ↔ name ≠ "" ∧ name = String.ofList (s.toList.filter isFieldChar) := by
  have hempty : (s.toList.filter isFieldChar).isEmpty = true ↔
      String.ofList (s.toList.filter isFieldChar) = "" := by
    rw [List.isEmpty_iff, ← String.toList_inj, String.toList_ofList, String.toList_empty]
  simp only [field]
  split
  · next h =>
    rw [hempty] at h
    simp only [h, reduceCtorEq, false_iff, not_and]
    exact fun hne heq => hne heq
  · next h =>
    rw [hempty] at h
    simp only [Except.ok.injEq]
    exact ⟨fun heq => ⟨heq ▸ h, heq.symm⟩, fun hn => hn.2.symm⟩

/-- A name is refused where none of its characters may stand in a field. -/
theorem field_eq_error_iff {s : String} {e : Error} :
    field s = .error e ↔ (∀ c ∈ s.toList, isFieldChar c = false) ∧ e = .invalidField s := by
  have hempty : (s.toList.filter isFieldChar).isEmpty = true ↔
      ∀ c ∈ s.toList, isFieldChar c = false := by
    rw [List.isEmpty_iff, List.filter_eq_nil_iff]
    simp only [Bool.not_eq_true]
  simp only [field]
  split
  · next h =>
    rw [Except.error.injEq]
    exact ⟨fun heq => ⟨hempty.1 h, heq.symm⟩, fun hs => hs.2.symm⟩
  · next h =>
    simp only [reduceCtorEq, false_iff, not_and]
    exact fun hs => absurd (hempty.2 hs) h

/-- The characters of field expressions are all visible. -/
theorem isBlank_of_isFieldChar {c : Char} (h : isFieldChar c = true) : isBlank c = false := by
  simp only [isFieldChar, Bool.or_eq_true, decide_eq_true_eq, List.mem_cons, List.not_mem_nil,
    or_false, isLetter_iff] at h
  rcases h with h | rfl | rfl | rfl | rfl | rfl
  · exact isBlank_of_graphic (by omega) (by omega)
  all_goals decide

/-- So a clean field name is not blank. -/
theorem IsField.isBlankText_eq_false {name : String} (h : IsField name) :
    isBlankText name = false := by
  cases hname : name.toList with
  | nil => exact absurd (String.toList_eq_nil_iff.1 hname) h.ne_empty
  | cons c rest =>
    have hc := isBlank_of_isFieldChar (h.chars c (by simp [hname]))
    simp [isBlankText, hname, hc]

theorem IsField.space_notMem {name : String} (h : IsField name) : ' ' ∉ name.toList := by
  intro hc
  exact absurd (h.chars ' ' hc) (by decide)

theorem isField_of_field {s name : String} (h : field s = .ok name) : IsField name := by
  obtain ⟨hne, rfl⟩ := field_eq_ok_iff.1 h
  refine ⟨hne, fun c hc => ?_⟩
  rw [String.toList_ofList, List.mem_filter] at hc
  exact hc.2

/-- One clean name comes of each field name. -/
theorem isField_of_fields : ∀ {ss names : List String}, fields ss = .ok names →
    names.length = ss.length ∧ ∀ name ∈ names, IsField name
  | [], names, h => by
      cases h
      simp
  | s :: rest, names, h => by
      rw [fields, bind_eq_ok_iff] at h
      obtain ⟨name, hname, h⟩ := h
      rw [bind_eq_ok_iff] at h
      obtain ⟨others, hothers, h⟩ := h
      cases h
      obtain ⟨hlength, hall⟩ := isField_of_fields hothers
      exact ⟨by simp [hlength], List.forall_mem_cons.2 ⟨isField_of_field hname, hall⟩⟩

/-! ## 3. Indexes -/

/-- A list of index names, as far as its characters go. -/
structure IsIndex (index : String) : Prop where
  ne_empty : index ≠ ""
  chars : ∀ c ∈ index.toList, isWordChar c = true ∨ c = ',' ∨ isBlank c = true

end Name

/-- A character of a text is the mark or in one of the parts between marks. -/
theorem mem_pieces (mark : Char) {c : Char} : ∀ {cs : List Char}, c ∈ cs →
    c = mark ∨ c ∈ (pieces mark cs).1 ∨ ∃ part ∈ (pieces mark cs).2, c ∈ part
  | d :: rest, h => by
      by_cases hd : d = mark
      · simp only [pieces, if_pos hd, List.not_mem_nil, false_or, List.mem_cons,
          exists_eq_or_imp]
        rcases List.mem_cons.1 h with rfl | h
        · exact .inl hd
        · exact mem_pieces mark h
      · simp only [pieces, if_neg hd, List.mem_cons]
        rcases List.mem_cons.1 h with rfl | h
        · exact .inr (.inl (.inl rfl))
        · exact (mem_pieces mark h).imp_right (.imp_left .inr)

namespace Name

theorem chars_of_isIndexName {cs : List Char} (h : isIndexName cs = true) {c : Char}
    (hc : c ∈ cs) : isWordChar c = true ∨ isBlank c = true := by
  cases hb : isBlank c with
  | true => exact .inr rfl
  | false =>
    simp only [isIndexName, Bool.and_eq_true, List.all_eq_true] at h
    exact .inl (h.2 c (mem_trimChars hb hc))

theorem isIndex_of_index {s name : String} (h : index s = .ok name) : IsIndex name := by
  simp only [index] at h
  split at h
  · cases h
  · next hne =>
    split at h
    · next hlist =>
      cases h
      refine ⟨by simpa [← String.toList_inj] using hne, fun c hc => ?_⟩
      rw [String.toList_ofList] at hc
      simp only [isIndexList, Bool.and_eq_true, List.all_eq_true] at hlist
      rcases mem_pieces ',' hc with rfl | hc | ⟨part, hpart, hc⟩
      · exact .inr (.inl rfl)
      · exact (chars_of_isIndexName hlist.1 hc).imp_right .inr
      · exact (chars_of_isIndexName (hlist.2 part hpart) hc).imp_right .inr
    · cases h

end Name

end SearchSql
