/-
SearchSql.Proofs.OutputNames — the column in which an expression comes back.

The daemon names a column of a result after the alias of the expression, which
stands behind an ` as ` outside of parentheses, or else after the expression
itself. A statement for one expression looks for its column under what follows the
last ` as ` wherever it stands. The two are the same unless that ` as ` stands in
parentheses, as it does in a cast.

* `Fields.aliasPlaces`, `Fields.outerAliasPlaces` — where an ` as ` stands, and
  where it does outside of parentheses.
* `Fields.returnedName` — the name under which an expression comes back.
* `Shape.column_of_expression` — which column a statement looks for, and when it is
  the one that comes back; `Shape.not_returnedName_of_cast` is a cast, for which it
  is not.
-/
import Mathlib.Data.List.Basic
import SearchSql.Proofs.FieldLists
import SearchSql.Shape
import SearchSql.Text.Cut

namespace SearchSql

open SearchSql.Text

/-! ## 1. Characters in small letters -/

namespace Text

/-- A letter takes one byte, whatever its case. -/
theorem utf8Size_fold (c : Char) : (fold c).utf8Size = c.utf8Size := by
  rw [fold]
  split
  · next h =>
    simp only [Bool.and_eq_true, decide_eq_true_eq, Char.le_def, UInt32.le_iff_toNat_le] at h
    obtain ⟨hlow, hhigh⟩ := h
    have hlow : 65 ≤ c.toNat := hlow
    have hhigh : c.toNat ≤ 90 := hhigh
    have hsmall : (Char.ofNat (c.toNat + 32)).toNat = c.toNat + 32 := by
      have hvalid : (c.toNat + 32).isValidChar := .inl (by omega)
      rw [Char.ofNat, dif_pos hvalid]
      rfl
    have hone : ∀ {d : Char}, d.toNat ≤ 127 → d.utf8Size = 1 := by
      intro d hd
      rw [Char.utf8Size_eq_one_iff, UInt32.le_iff_toNat_le]
      exact hd
    rw [hone (by omega), hone (by omega)]
  · rfl

theorem utf8ByteSize_map_fold (cs : List Char) :
    (String.ofList (cs.map fold)).utf8ByteSize = (String.ofList cs).utf8ByteSize := by
  induction cs with
  | nil => rfl
  | cons c cs ih =>
    rw [List.map_cons, utf8ByteSize_ofList_cons, utf8ByteSize_ofList_cons, utf8Size_fold, ih]

/-- Trimming takes no visible characters off a text. -/
theorem count_trimChars {c : Char} (h : isBlank c = false) (cs : List Char) :
    (trimChars cs).count c = cs.count c := by
  have hc : (!isBlank c) = true := by simp [h]
  have hcount := fun ds => List.count_filter (l := ds) (p := fun d => !isBlank d) hc
  rw [← hcount, filter_trimChars, hcount]

end Text

namespace Fields

/-! ## 2. Aliases -/

/-- The places of a text at which ` as ` stands, in any case. -/
def aliasPlaces (cs : List Char) : List Nat :=
  (List.range cs.length).filter fun i => sameFolded ((cs.drop i).take 4) " as ".toList

/-- Those of them that are outside of parentheses. -/
def outerAliasPlaces (cs : List Char) : List Nat :=
  (aliasPlaces cs).filter fun i => nesting 0 (cs.take i) == 0

/-- The name that follows an ` as ` at some place of a text; the text itself where
there is none. -/
def nameBehind (text : String) : Option Nat → String
  | some i => String.ofList (trimChars (text.toList.drop (i + 4)))
  | none => text

/-- The name under which an expression comes back: what follows the last ` as `
outside of parentheses, or else the expression as it is. -/
def returnedName (text : String) : String :=
  nameBehind text (outerAliasPlaces text.toList).getLast?

theorem aliasPlaces_cons (c : Char) (cs : List Char) :
    aliasPlaces (c :: cs) =
      (if sameFolded ((c :: cs).take 4) " as ".toList then [0] else [])
        ++ (aliasPlaces cs).map (· + 1) := by
  rw [aliasPlaces, List.length_cons, List.range_succ_eq_map, List.filter_cons, List.filter_map]
  split <;> simp_all [aliasPlaces, Function.comp_def]

/-- What the last alias of a text is taken to be. -/
theorem afterAlias?_eq (cs : List Char) :
    afterAlias? cs = (aliasPlaces cs).getLast?.map fun i => cs.drop (i + 4) := by
  induction cs with
  | nil => rfl
  | cons c cs ih =>
    rw [afterAlias?, ih, aliasPlaces_cons, List.getLast?_append, List.getLast?_map]
    cases hlast : (aliasPlaces cs).getLast? with
    | some i => simp
    | none =>
      cases hhere : sameFolded ((c :: cs).take 4) " as ".toList with
      | true => simp_all
      | false => simp_all

theorem outputName_eq (e : String) :
    outputName e = nameBehind (trim e) (aliasPlaces (trimChars e.toList)).getLast? := by
  rw [outputName, afterAlias?_eq]
  cases (aliasPlaces (trimChars e.toList)).getLast? with
  | none => rfl
  | some i => simp [nameBehind]

/-- The mark of an alias has no parentheses. -/
theorem notMem_of_sameFolded {cs : List Char} (h : sameFolded cs " as ".toList = true) :
    '(' ∉ cs := by
  intro hmem
  have hfolded : fold '(' ∈ cs.map fold := List.mem_map_of_mem hmem
  rw [sameFolded, beq_iff_eq] at h
  rw [h] at hfolded
  revert hfolded
  decide

/-- The mark of an alias takes four bytes, in letters of either case. -/
theorem utf8ByteSize_of_sameFolded {cs : List Char} (h : sameFolded cs " as ".toList = true) :
    (String.ofList cs).utf8ByteSize = 4 := by
  rw [sameFolded, beq_iff_eq] at h
  rw [← utf8ByteSize_map_fold, h]
  decide

/-- **No character is divided at an alias.** The byte at which the alias is found in
the text in small letters, and four more, make up a start of the text as it is, and
the rest of it is what follows the alias. -/
theorem exists_append_of_mem_aliasPlaces {text : String} {i : Nat}
    (h : i ∈ aliasPlaces text.toList) :
    ∃ head tail : String, text = head ++ tail ∧ tail.toList = text.toList.drop (i + 4) ∧
      head.utf8ByteSize
        = (String.ofList ((text.toList.map fold).take i)).utf8ByteSize + 4 := by
  have hmark := (List.mem_filter.1 h).2
  refine ⟨String.ofList (text.toList.take (i + 4)), String.ofList (text.toList.drop (i + 4)),
    ?_, String.toList_ofList, ?_⟩
  · rw [← String.ofList_append, List.take_append_drop, String.ofList_toList]
  · rw [List.take_add, String.ofList_append, String.utf8ByteSize_append,
      utf8ByteSize_of_sameFolded hmark, ← List.map_take, utf8ByteSize_map_fold]

/-! ## 3. Aliases in parentheses -/

/-- Between a place outside of parentheses and a later one inside there is one that
opens. -/
theorem count_drop_lt {cs : List Char} {i j : Nat} (hij : i ≤ j)
    (hout : nesting 0 (cs.take i) = 0) (hin : nesting 0 (cs.take j) ≠ 0) :
    (cs.drop j).count '(' < (cs.drop i).count '(' := by
  obtain ⟨n, rfl⟩ := Nat.exists_eq_add_of_le hij
  rw [List.take_add, nesting_append, hout] at hin
  have hopen : '(' ∈ (cs.drop i).take n := by
    by_contra hnone
    exact hin (nesting_eq_zero_of_notMem hnone)
  have hsplit := congrArg (List.count '(') (List.take_append_drop n (cs.drop i))
  rw [List.count_append, List.drop_drop] at hsplit
  have hpos := List.count_pos_iff.2 hopen
  omega

theorem count_nameBehind (text : String) (i : Nat) :
    (nameBehind text (some i)).toList.count '(' = (text.toList.drop (i + 4)).count '(' := by
  rw [nameBehind, String.toList_ofList, count_trimChars rfl]

theorem count_drop_of_mem_aliasPlaces {cs : List Char} {i : Nat} (h : i ∈ aliasPlaces cs) :
    (cs.drop (i + 4)).count '(' = (cs.drop i).count '(' := by
  have hmark := List.count_eq_zero.2 (notMem_of_sameFolded (List.mem_filter.1 h).2)
  have hsplit := congrArg (List.count '(') (List.take_append_drop 4 (cs.drop i))
  rw [List.count_append, hmark, List.drop_drop] at hsplit
  omega

/-- **What follows an alias in parentheses is not what follows an earlier one outside
of them**, nor is it the whole text: it has fewer opening parentheses. -/
theorem nameBehind_ne {text : String} {j : Nat} (hin : nesting 0 (text.toList.take j) ≠ 0)
    {o : Option Nat} (ho : ∀ i ∈ o, i ∈ outerAliasPlaces text.toList ∧ i ≤ j) :
    nameBehind text (some j) ≠ nameBehind text o := by
  have hfewer : (nameBehind text (some j)).toList.count '('
      ≤ (text.toList.drop j).count '(' := by
    rw [count_nameBehind, ← List.drop_drop]
    exact (List.drop_sublist 4 _).count_le '('
  intro heq
  rw [heq] at hfewer
  cases o with
  | none =>
    have hlt := count_drop_lt (Nat.zero_le j) rfl hin
    rw [List.drop_zero] at hlt
    exact absurd hfewer (Nat.not_le.2 hlt)
  | some i =>
    obtain ⟨hi, hij⟩ := ho i rfl
    obtain ⟨hplace, hout⟩ := List.mem_filter.1 hi
    rw [count_nameBehind, count_drop_of_mem_aliasPlaces hplace] at hfewer
    exact absurd hfewer (Nat.not_le.2 (count_drop_lt hij (beq_iff_eq.1 hout) hin))

/-- The places of aliases increase. -/
theorem pairwise_aliasPlaces (cs : List Char) : (aliasPlaces cs).Pairwise (· < ·) :=
  List.pairwise_lt_range.filter _

/-- **The last alias gives the returned name exactly where it stands outside of
parentheses.** -/
theorem nameBehind_eq_returnedName_iff (text : String) :
    nameBehind text (aliasPlaces text.toList).getLast? = returnedName text ↔
      ∀ i ∈ (aliasPlaces text.toList).getLast?, nesting 0 (text.toList.take i) = 0 := by
  rw [returnedName, outerAliasPlaces]
  cases hlast : (aliasPlaces text.toList).getLast? with
  | none =>
    rw [List.getLast?_eq_none_iff] at hlast
    simp [hlast]
  | some j =>
    obtain ⟨front, hplaces⟩ := List.getLast?_eq_some_iff.1 hlast
    have hsorted := pairwise_aliasPlaces text.toList
    rw [hplaces, List.pairwise_append] at hsorted
    simp only [Option.mem_def, Option.some.injEq, forall_eq']
    constructor
    · intro heq
      by_contra hin
      refine nameBehind_ne hin (o := (outerAliasPlaces text.toList).getLast?) ?_ heq
      intro i hi
      have hmem := List.mem_of_getLast? hi
      refine ⟨hmem, ?_⟩
      have hplace := (List.mem_filter.1 hmem).1
      rw [hplaces, List.mem_append, List.mem_singleton] at hplace
      rcases hplace with hfront | rfl
      · exact Nat.le_of_lt (hsorted.2.2 i hfront j (List.mem_singleton_self j))
      · exact Nat.le_refl i
    · intro hout
      rw [hplaces, List.filter_append, List.getLast?_append]
      simp [hout]

end Fields

/-! ## 4. Columns -/

namespace Shape

open Fields

/-- **The column that a statement for one expression looks for** is named after what
follows the last ` as ` of the expression. It is the column that comes back exactly
where that ` as ` stands outside of parentheses, or there is none. Finding it divides
no character. -/
theorem column_of_expression {e text : String} (h : Fields.parse e = .expression text)
    (hstar : text ≠ "*") (pairs : Bool) :
    (∃ name, ofFields pairs (Fields.parse e) = .column name ∧
      (name = returnedName text ↔
        ∀ i ∈ (aliasPlaces text.toList).getLast?, nesting 0 (text.toList.take i) = 0)) ∧
    ∀ i ∈ aliasPlaces text.toList, ∃ head tail : String,
      text = head ++ tail ∧ tail.toList = text.toList.drop (i + 4) ∧
        head.utf8ByteSize
          = (String.ofList ((text.toList.map fold).take i)).utf8ByteSize + 4 := by
  obtain ⟨rfl, -⟩ := expression_of_parse h
  refine ⟨⟨nameBehind (trim e) (aliasPlaces (trim e).toList).getLast?, ?_,
    nameBehind_eq_returnedName_iff (trim e)⟩, fun i hi => exists_append_of_mem_aliasPlaces hi⟩
  rw [h, ofFields, ofExpression, trim_trim, if_neg hstar, outputName_eq, toList_trim,
    trimChars_trimChars, trim_trim]

/-- An alias in parentheses before the one outside of them, with letters of two bytes
around both. -/
theorem column_of_expression_nested :
    let e := " ROUND(CAST(größe as float)) As  Größe "
    let text := "ROUND(CAST(größe as float)) As  Größe"
    Fields.parse e = .expression text ∧ text ≠ "*" ∧ returnedName text = "Größe" ∧
      ofFields true (Fields.parse e) = .column (returnedName text) := by
  intro e text
  have h : Fields.parse e = .expression text := by decide +kernel
  have hstar : text ≠ "*" := by decide +kernel
  obtain ⟨⟨name, hname, hiff⟩, -⟩ := column_of_expression h hstar true
  refine ⟨h, hstar, by decide +kernel, ?_⟩
  rw [hname, hiff.2]
  intro i hi
  have hlast : (aliasPlaces text.toList).getLast? = some 27 := by decide +kernel
  rw [hlast, Option.mem_some_iff] at hi
  subst hi
  decide +kernel

/-- A cast comes back under its own text, and its column is looked for under the name
of a type and a parenthesis. -/
theorem not_returnedName_of_cast :
    let e := "CAST(price AS FLOAT)"
    Fields.parse e = .expression e ∧ e ≠ "*" ∧ level? 0 e.toList = some 0 ∧
      returnedName e = e ∧ ∀ pairs, ofFields pairs (Fields.parse e) = .column "FLOAT)" := by
  intro e
  refine ⟨?_, ?_, ?_, ?_, ?_⟩ <;> decide +kernel

end Shape

end SearchSql
