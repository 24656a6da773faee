/-
SearchSql.Text.Blank — white space, and text without the white space at
its ends.

White space is the Unicode property White_Space, twenty-five characters in
all. Names, values, terms and field lists are trimmed by it before anything
else looks at them, so one table serves the whole library.
-/

namespace SearchSql.Text

/-- The characters of the Unicode property White_Space. -/
def isBlank (c : Char) : Bool :=
  let n := c.toNat
  (9 ≤ n && n ≤ 13) || n == 0x20 || n == 0x85 || n == 0xA0 || n == 0x1680
    || (0x2000 ≤ n && n ≤ 0x200A) || n == 0x2028 || n == 0x2029 || n == 0x202F
    || n == 0x205F || n == 0x3000

/-- A text without the white space it begins with. -/
def trimStartChars (cs : List Char) : List Char :=
  cs.dropWhile isBlank

/-- A text without the white space it ends with. -/
def trimEndChars : List Char → List Char
  | [] => []
  | c :: rest =>
    match trimEndChars rest with
    | [] => if isBlank c then [] else [c]
    | d :: kept => c :: d :: kept

/-- A text without the white space at either end. -/
def trimChars (cs : List Char) : List Char :=
  trimEndChars (trimStartChars cs)

/-- A string without the white space at either end. -/
def trim (s : String) : String :=
  String.ofList (trimChars s.toList)

/-- Whether a text has no character but white space. -/
def isBlankText (s : String) : Bool :=
  s.toList.all isBlank

/-! ## Small facts -/

@[simp] theorem toList_trim (s : String) : (trim s).toList = trimChars s.toList := by
  simp [trim]

/-- The characters of ASCII that leave a mark are no white space. -/
theorem isBlank_of_graphic {c : Char} (hlow : 33 ≤ c.toNat) (hhigh : c.toNat ≤ 126) :
    isBlank c = false := by
  simp only [isBlank, Bool.or_eq_false_iff, Bool.and_eq_false_iff, decide_eq_false_iff_not,
    beq_eq_false_iff_ne]
  omega

@[simp] theorem trimEndChars_nil : trimEndChars [] = [] := rfl

/-- Nothing is left of a text exactly when it is white space throughout. -/
theorem trimEndChars_eq_nil_iff (cs : List Char) :
    trimEndChars cs = [] ↔ cs.all isBlank = true := by
  induction cs with
  | nil => simp
  | cons c rest ih =>
    simp only [trimEndChars, List.all_cons, Bool.and_eq_true]
    cases h : trimEndChars rest with
    | nil => simp [ih.1 h]
    | cons d kept => simp [← ih, h]

/-- A character that is not white space stays where it is. -/
theorem trimEndChars_cons_of_not_isBlank {c : Char} (h : isBlank c = false) (rest : List Char) :
    trimEndChars (c :: rest) = c :: trimEndChars rest := by
  rw [trimEndChars]
  cases trimEndChars rest with
  | nil => simp [h]
  | cons d kept => rfl

theorem trimEndChars_trimEndChars (cs : List Char) :
    trimEndChars (trimEndChars cs) = trimEndChars cs := by
  induction cs with
  | nil => rfl
  | cons c rest ih =>
    rw [trimEndChars]
    cases h : trimEndChars rest with
    | nil =>
      by_cases hc : isBlank c = true
      · simp [hc]
      · simp [hc, trimEndChars]
    | cons d kept =>
      rw [h] at ih
      rw [trimEndChars, ih]

/-- A text that starts with white space no longer does when it is trimmed. -/
theorem trimStartChars_trimChars (cs : List Char) :
    trimStartChars (trimChars cs) = trimChars cs := by
  unfold trimChars
  cases h : trimStartChars cs with
  | nil => rfl
  | cons c rest =>
    have hc : isBlank c = false := by
      have := List.head?_dropWhile_not isBlank cs
      rw [show cs.dropWhile isBlank = c :: rest from h] at this
      simpa using this
    rw [trimEndChars_cons_of_not_isBlank hc, trimStartChars, List.dropWhile_cons_of_neg (by simp [hc])]

/-- Trimming a second time changes nothing. -/
@[simp] theorem trimChars_trimChars (cs : List Char) : trimChars (trimChars cs) = trimChars cs := by
  rw [trimChars, trimStartChars_trimChars, trimChars, trimEndChars_trimEndChars]

/-- A text without white space is trimmed already. -/
theorem trimChars_of_visible {cs : List Char} (h : ∀ c ∈ cs, isBlank c = false) :
    trimChars cs = cs := by
  have hend : ∀ ds : List Char, (∀ c ∈ ds, isBlank c = false) → trimEndChars ds = ds := by
    intro ds
    induction ds with
    | nil => simp
    | cons d rest ih =>
      intro hds
      rw [trimEndChars_cons_of_not_isBlank (hds d List.mem_cons_self),
        ih fun c hc => hds c (List.mem_cons_of_mem d hc)]
  have hstart : trimStartChars cs = cs := by
    cases cs with
    | nil => rfl
    | cons c rest =>
      have hc := h c List.mem_cons_self
      rw [trimStartChars, List.dropWhile_cons_of_neg (by simp [hc])]
  rw [trimChars, hstart, hend cs h]

theorem trimEndChars_cons (c : Char) (rest : List Char) :
    trimEndChars (c :: rest)
      = if trimEndChars rest = [] ∧ isBlank c = true then [] else c :: trimEndChars rest := by
  rw [trimEndChars]
  cases h : trimEndChars rest with
  | nil => simp
  | cons d kept => simp

theorem trimChars_cons_of_isBlank {c : Char} (h : isBlank c = true) (rest : List Char) :
    trimChars (c :: rest) = trimChars rest := by
  rw [trimChars, trimStartChars, List.dropWhile_cons_of_pos h]
  rfl

/-- It does not matter which end is trimmed first. -/
theorem trimStartChars_trimEndChars (cs : List Char) :
    trimStartChars (trimEndChars cs) = trimEndChars (trimStartChars cs) := by
  induction cs with
  | nil => rfl
  | cons c rest ih =>
    cases hc : isBlank c with
    | true =>
      have hstart : trimStartChars (c :: rest) = trimStartChars rest :=
        List.dropWhile_cons_of_pos hc
      rw [hstart, ← ih, trimEndChars_cons]
      split
      · next h => rw [h.1]
      · exact List.dropWhile_cons_of_pos hc
    | false =>
      have hstart : ∀ tail, trimStartChars (c :: tail) = c :: tail :=
        fun tail => List.dropWhile_cons_of_neg (by simp [hc])
      rw [hstart, trimEndChars_cons_of_not_isBlank hc, hstart]

theorem trimChars_trimEndChars (cs : List Char) : trimChars (trimEndChars cs) = trimChars cs := by
  rw [trimChars, trimStartChars_trimEndChars, trimEndChars_trimEndChars, trimChars]

/-- A text is what trimming leaves of it, with white space around that. -/
theorem exists_append_trimChars (cs : List Char) : ∃ before after,
    cs = before ++ trimChars cs ++ after ∧ before.all isBlank = true ∧
      after.all isBlank = true := by
  have hend : ∀ ds : List Char, ∃ after,
      ds = trimEndChars ds ++ after ∧ after.all isBlank = true := by
    intro ds
    induction ds with
    | nil => exact ⟨[], rfl, rfl⟩
    | cons d rest ih =>
      obtain ⟨after, hrest, hafter⟩ := ih
      rw [trimEndChars_cons]
      split
      · next h =>
        rw [h.1, List.nil_append] at hrest
        exact ⟨d :: rest, rfl, by rw [List.all_cons, h.2, hrest, hafter]; rfl⟩
      · exact ⟨after, by rw [List.cons_append, ← hrest], hafter⟩
  obtain ⟨after, hafter, hblank⟩ := hend (trimStartChars cs)
  refine ⟨cs.takeWhile isBlank, after, ?_, List.all_takeWhile, hblank⟩
  rw [trimChars, List.append_assoc, ← hafter, trimStartChars, List.takeWhile_append_dropWhile]

/-- Trimming takes nothing but white space off a text. -/
theorem filter_trimChars (cs : List Char) :
    (trimChars cs).filter (fun c => !isBlank c) = cs.filter fun c => !isBlank c := by
  have hnone : ∀ ds : List Char, ds.all isBlank = true → ds.filter (fun c => !isBlank c) = [] := by
    intro ds hds
    rw [List.filter_eq_nil_iff]
    intro c hc
    simp [List.all_eq_true.1 hds c hc]
  obtain ⟨before, after, hcs, hbefore, hafter⟩ := exists_append_trimChars cs
  conv => rhs; rw [hcs]
  rw [List.filter_append, List.filter_append, hnone before hbefore, hnone after hafter,
    List.nil_append, List.append_nil]

theorem mem_trimChars {c : Char} (hc : isBlank c = false) {cs : List Char} (h : c ∈ cs) :
    c ∈ trimChars cs := by
  have hkept : c ∈ (trimChars cs).filter fun c => !isBlank c := by
    rw [filter_trimChars]
    exact List.mem_filter.2 ⟨h, by simp [hc]⟩
  exact (List.mem_filter.1 hkept).1

theorem trimChars_subset (cs : List Char) : trimChars cs ⊆ cs := by
  intro c hc
  obtain ⟨before, after, hcs, -, -⟩ := exists_append_trimChars cs
  rw [hcs]
  exact List.mem_append_left after (List.mem_append_right before hc)

/-- White space around a text makes no difference once the text is trimmed. -/
theorem trimChars_append_append {before after : List Char} (hbefore : before.all isBlank = true)
    (hafter : after.all isBlank = true) (cs : List Char) :
    trimChars (before ++ cs ++ after) = trimChars cs := by
  have hend : ∀ ds : List Char, trimEndChars (ds ++ after) = trimEndChars ds := by
    intro ds
    induction ds with
    | nil => simpa using (trimEndChars_eq_nil_iff after).2 hafter
    | cons d rest ih => rw [List.cons_append, trimEndChars_cons, trimEndChars_cons, ih]
  rw [← trimChars_trimEndChars, hend, trimChars_trimEndChars]
  induction before with
  | nil => rfl
  | cons c before ih =>
    rw [List.all_cons, Bool.and_eq_true] at hbefore
    rw [List.cons_append, trimChars_cons_of_isBlank hbefore.1, ih hbefore.2]

theorem trimChars_eq_nil_iff (cs : List Char) : trimChars cs = [] ↔ cs.all isBlank = true := by
  constructor
  · intro h
    obtain ⟨before, after, hcs, hbefore, hafter⟩ := exists_append_trimChars cs
    rw [hcs, h, List.append_nil, List.all_append, hbefore, hafter]
    rfl
  · intro h
    rw [← List.append_nil cs, ← List.append_nil (cs ++ []),
      trimChars_append_append h List.all_nil]
    rfl

theorem trim_eq_self_iff {s : String} : trim s = s ↔ trimChars s.toList = s.toList := by
  rw [← String.toList_inj, toList_trim]

theorem trim_trim (s : String) : trim (trim s) = trim s := by
  rw [trim_eq_self_iff, toList_trim, trimChars_trimChars]

end SearchSql.Text
