/-
SearchSql.Proofs.IndexLists — the lists of index names, as a grammar.

The index of a statement stands in it unquoted, so it is checked when the statement
is started. The check cuts a text at its commas and looks at each part by itself.
What it accepts is a grammar: names of letters, digits and low lines with white
space around them, and one comma between two of them.

* `Name.IsPart`, `Name.IsList` — the grammar.
* `Name.isIndexList_iff` — cutting at commas and trimming is reading by the grammar.
* `Name.index_by_grammar` — what the check says of every text, and that every call
  that starts a statement says the same.
-/
import SearchSql.Proofs.CallChanges

namespace SearchSql

open SearchSql.Text

/-! ## 1. Parts between commas -/

namespace Text

theorem isBlank_of_isWordChar {c : Char} (h : isWordChar c = true) : isBlank c = false := by
  simp only [isWordChar, Bool.or_eq_true, beq_iff_eq, isLetter_iff, isDigit_iff] at h
  rcases h with h | rfl
  · exact isBlank_of_graphic (by omega) (by omega)
  · decide

end Text

namespace Name

/-! ## 2. The grammar -/

/-- An index name: letters and digits of ASCII and low lines, at least one, with
white space around it, if any. -/
inductive IsPart : List Char → Prop
  | mk {before name after : List Char} (hbefore : before.all isBlank = true) (hne : name ≠ [])
      (hname : ∀ c ∈ name, c.isAlphanum = true ∨ c = '_') (hafter : after.all isBlank = true) :
      IsPart (before ++ name ++ after)

/-- A list of index names: one, or more with a comma between two of them. -/
inductive IsList : List Char → Prop
  | one {part : List Char} (h : IsPart part) : IsList part
  | comma {part rest : List Char} (h : IsPart part) (hrest : IsList rest) :
      IsList (part ++ ',' :: rest)

theorem IsPart.comma_notMem {part : List Char} (h : IsPart part) : ',' ∉ part := by
  obtain ⟨hbefore, -, hname, hafter⟩ := h
  rw [List.all_eq_true] at hbefore hafter
  simp only [List.mem_append, not_or]
  refine ⟨⟨fun hc => ?_, fun hc => ?_⟩, fun hc => ?_⟩
  · exact absurd (hbefore _ hc) (by decide)
  · exact absurd (hname _ hc) (by decide)
  · exact absurd (hafter _ hc) (by decide)

theorem isIndexName_iff {cs : List Char} : isIndexName cs = true ↔ IsPart cs := by
  constructor
  · intro h
    obtain ⟨before, after, hcs, hbefore, hafter⟩ := exists_append_trimChars cs
    simp only [isIndexName, Bool.and_eq_true, Bool.not_eq_true', List.isEmpty_eq_false_iff,
      List.all_eq_true, isWordChar_iff] at h
    rw [hcs]
    exact ⟨hbefore, h.1, h.2, hafter⟩
  · rintro ⟨hbefore, hne, hname, hafter⟩
    simp only [← isWordChar_iff] at hname
    rw [isIndexName, trimChars_append_append hbefore hafter,
      trimChars_of_visible fun c hc => isBlank_of_isWordChar (hname c hc)]
    simpa [hne] using hname

/-- **Cutting a text at its commas and trimming the parts reads it by the
grammar.** -/
theorem isIndexList_iff {cs : List Char} : isIndexList cs = true ↔ IsList cs := by
  constructor
  · intro h
    simp only [isIndexList, Bool.and_eq_true, List.all_eq_true, isIndexName_iff] at h
    obtain ⟨hfirst, hothers⟩ := h
    rw [← intercalate_pieces ',' cs]
    generalize (pieces ',' cs).1 = first at hfirst
    generalize (pieces ',' cs).2 = others at hothers
    induction others generalizing first with
    | nil => simpa using .one hfirst
    | cons next others ih =>
      rw [List.forall_mem_cons] at hothers
      rw [List.intercalate_cons_cons]
      simpa using .comma hfirst (ih next hothers.1 hothers.2)
  · intro h
    induction h with
    | one hpart =>
      simp [isIndexList, pieces_of_notMem hpart.comma_notMem, isIndexName_iff.2 hpart]
    | comma hpart hrest ih =>
      simp only [isIndexList, pieces_append_cons hpart.comma_notMem, List.all_cons]
      rw [isIndexName_iff.2 hpart]
      exact ih

/-- A list of names has a name, so it is not all white space. -/
theorem IsList.ne_blank {cs : List Char} (h : IsList cs) : cs.all isBlank = false := by
  have hpart : ∀ {part}, IsPart part → ∀ rest, (part ++ rest).all isBlank = false := by
    rintro _ ⟨-, hne, hname, -⟩ rest
    obtain ⟨c, name, rfl⟩ := List.exists_cons_of_ne_nil hne
    have hc := isBlank_of_isWordChar ((isWordChar_iff c).2 (hname c List.mem_cons_self))
    simp [hc]
  cases h with
  | one h => simpa using hpart h []
  | comma h hrest => exact hpart h _

/-! ## 3. The check -/

/-- What the check of an index comes to, text by text. -/
theorem index_eq (s : String) : index s =
    if s.toList.all isBlank = true then .error .emptyIndex
    else if isIndexList (trimChars s.toList) = true then .ok (trim s)
    else .error (.invalidIndex s) := by
  have hblank : (trimChars s.toList).isEmpty = s.toList.all isBlank := by
    rw [Bool.eq_iff_iff, List.isEmpty_iff, trimChars_eq_nil_iff]
  simp only [index, hblank]
  rfl

theorem index_eq_ok_iff {s name : String} :
    index s = .ok name ↔ IsList (trimChars s.toList) ∧ name = trim s := by
  rw [index_eq]
  split
  · next hblank =>
    -- Nothing is left of such a text, and nothing is no list.
    rw [(trimChars_eq_nil_iff _).2 hblank]
    simp only [reduceCtorEq, false_iff, not_and]
    intro hlist
    exact absurd hlist.ne_blank (by decide)
  · rw [← isIndexList_iff]
    split
    · next hlist => simp [hlist, eq_comm]
    · next hlist => simp [hlist]

theorem index_eq_error_iff {s : String} {e : Error} :
    index s = .error e ↔
      (s.toList.all isBlank = true ∧ e = .emptyIndex) ∨
      (s.toList.all isBlank = false ∧ ¬IsList (trimChars s.toList) ∧ e = .invalidIndex s) := by
  rw [index_eq, ← isIndexList_iff]
  split
  · next hblank =>
    rw [Except.error.injEq, eq_comm]
    simp [hblank]
  · next hblank =>
    split
    · next hlist => simp [hblank, hlist]
    · next hlist =>
      rw [Except.error.injEq, eq_comm]
      simp [hblank, hlist]

end Name

/-- A call that starts a statement on an index and passes every check but that of
the index. -/
def Call.Starts (index : String) : Call → Prop
  | .selectFrom i fields => i = index ∧ fields.isEmpty = false
  | .insertInto i columns | .replaceInto i columns =>
    i = index ∧ columns.isEmpty = false ∧ ∃ names, Name.fields columns.names = .ok names
  | .deleteFrom i => i = index
  | _ => False

/-- Behind every start of a statement stands the same check. -/
theorem Call.Starts.check_eq {index : String} {c : Call} (h : c.Starts index) :
    ∃ kind fields, c.check = Change.starting kind index fields := by
  have hwriting : ∀ kind (columns : Fields), columns.isEmpty = false →
      (∃ names, Name.fields columns.names = .ok names) →
      ∃ fields, Change.writing kind index columns = Change.starting kind index fields := by
    rintro kind columns hne ⟨names, hnames⟩
    refine ⟨.columns names, ?_⟩
    rw [Change.writing, if_neg (by simp [hne]), hnames]
    rfl
  cases c with
  | selectFrom i fields =>
    obtain ⟨rfl, hne⟩ := h
    exact ⟨.select, fields, by rw [check, if_neg (by simp [hne])]⟩
  | insertInto i columns =>
    obtain ⟨rfl, hne, hnames⟩ := h
    exact ⟨.insert, hwriting .insert columns hne hnames⟩
  | replaceInto i columns =>
    obtain ⟨rfl, hne, hnames⟩ := h
    exact ⟨.replace, hwriting .replace columns hne hnames⟩
  | deleteFrom i =>
    obtain rfl : i = index := h
    exact ⟨.delete, .empty, rfl⟩
  | filter | between | oneOf | search | searchAll | groupBy | orderBy | limit | maxMatches
  | pairs | values => exact h.elim

namespace Name

/-- **The check of an index accepts the lists of index names and nothing else.** A
text of white space names no index, and every other text that is no list is refused
as it was given. What is accepted is trimmed, and has no character that could end a
name in a statement. A call that starts a statement fails with the error of this
check or goes to the index that was accepted. -/
theorem index_by_grammar (s : String) :
    (∀ name, index s = .ok name ↔ IsList (trimChars s.toList) ∧ name = trim s) ∧
    (∀ e, index s = .error e ↔
      (s.toList.all isBlank = true ∧ e = .emptyIndex) ∨
      (s.toList.all isBlank = false ∧ ¬IsList (trimChars s.toList) ∧ e = .invalidIndex s)) ∧
    (∀ name, index s = .ok name → index name = .ok name ∧
      ∀ c ∈ name.toList, c.isAlphanum = true ∨ c = '_' ∨ c = ',' ∨ isBlank c = true) ∧
    ∀ (b : Builder) (c : Call), c.Starts s →
      (∀ e, (b.call c).1 = .error e ↔ index s = .error e) ∧
      ∀ name, index s = .ok name → (b.call c).1 = .ok () ∧
        ∃ t, (b.call c).2.target = some t ∧ t.index = name := by
  refine ⟨fun name => index_eq_ok_iff, fun e => index_eq_error_iff, fun name h => ⟨?_, ?_⟩,
    fun b c hc => ⟨fun e => ?_, fun name h => ?_⟩⟩
  · obtain ⟨hlist, rfl⟩ := index_eq_ok_iff.1 h
    refine index_eq_ok_iff.2 ⟨?_, (trim_trim s).symm⟩
    rwa [toList_trim, trimChars_trimChars]
  · intro c hc
    rcases (isIndex_of_index h).chars c hc with hword | hc | hc
    · exact ((isWordChar_iff c).1 hword).imp_right .inl
    · exact .inr (.inr (.inl hc))
    · exact .inr (.inr (.inr hc))
  · obtain ⟨kind, fields, hcheck⟩ := hc.check_eq
    rw [Builder.call_error_iff, hcheck, Change.starting, map_eq_error_iff]
  · obtain ⟨kind, fields, hcheck⟩ := hc.check_eq
    rw [Change.starting, h] at hcheck
    rw [b.call_of_check_ok hcheck]
    exact ⟨rfl, _, rfl, rfl⟩

/-- Two names with wide white space around them, and a name with a letter that only
looks like one of ASCII. -/
theorem index_by_grammar_of_two :
    let s := "\u2003main\u00a0,\tdelta_2 "
    let b := Builder.ofPaging .standard
    let call := Call.insertInto s (.columns ["id"])
    index s = .ok "main\u00a0,\tdelta_2" ∧
      index "main\u00a0,\tdelta_2" = .ok "main\u00a0,\tdelta_2" ∧
      (call.Starts s ∧ ∃ t, (b.call call).2.target = some t ∧
        t.index = "main\u00a0,\tdelta_2") ∧
      index "m\u0430in" = .error (.invalidIndex "m\u0430in") ∧
      index "main,,delta" = .error (.invalidIndex "main,,delta") := by
  intro s b call
  obtain ⟨hok, -, hagain, hcalls⟩ := index_by_grammar s
  have hindex : index s = .ok "main\u00a0,\tdelta_2" :=
    (hok _).2 ⟨isIndexList_iff.1 (by decide), by decide⟩
  have hstarts : call.Starts s := ⟨rfl, by decide, ["id"], rfl⟩
  have hrefused : ∀ t : String, t.toList.all isBlank = false →
      isIndexList (trimChars t.toList) = false → index t = .error (.invalidIndex t) := by
    intro t hblank hlist
    refine ((index_by_grammar t).2.1 _).2 (.inr ⟨hblank, ?_, rfl⟩)
    rw [← isIndexList_iff, hlist]
    decide
  exact ⟨hindex, (hagain _ hindex).1, ⟨hstarts, ((hcalls b call hstarts).2 _ hindex).2⟩,
    hrefused _ (by decide) (by decide), hrefused _ (by decide) (by decide)⟩

end Name

end SearchSql
