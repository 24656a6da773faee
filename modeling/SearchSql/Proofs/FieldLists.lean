/-
SearchSql.Proofs.FieldLists — declarations of fields as lists of names.

A declared text is cut at the commas that stand outside of its parentheses, and
each part is trimmed. Where the declaration is shown, a comma and a space stand
between the parts. Cutting what is shown gives the same parts again: white space
is no part of a name, and no part leaves a parenthesis open but the last one.

* `Fields.outerCommas` — the commas of a text outside of parentheses.
* `Fields.parts` — the parts between them; `Fields.Apart` is what sets parts
  apart from each other (`Fields.apart_parts`).
* `Fields.trimmedParts_trimChars`, `Fields.trimmedParts_intercalate` — neither the
  white space around a text nor that behind a comma makes a difference.
* `Fields.parse_round_trip` — a declaration that is shown and read again is the
  same declaration, and which lists of names are read again as they were.
-/
import Mathlib.Data.List.Basic
import SearchSql.Fields
import SearchSql.Proofs.Parentheses

namespace SearchSql.Fields

open SearchSql.Text

/-! ## 1. Commas outside of parentheses -/

/-- How many commas of a text stand outside of parentheses, with `depth` of them
open before it. -/
def outerCommas (depth : Nat) (cs : List Char) : Nat :=
  (List.range cs.length).countP fun i => cs[i]? == some ',' && nesting depth (cs.take i) == 0

@[simp] theorem outerCommas_nil (depth : Nat) : outerCommas depth [] = 0 := rfl

theorem outerCommas_cons (depth : Nat) (c : Char) (cs : List Char) :
    outerCommas depth (c :: cs)
      = outerCommas (deepen depth c) cs + if c = ',' ∧ depth = 0 then 1 else 0 := by
  rw [outerCommas, List.length_cons, List.range_succ_eq_map, List.countP_cons, List.countP_map]
  congr 1
  simp

/-- Characters other than parentheses and commas may be left out. -/
theorem outerCommas_filter {p : Char → Bool} (hopen : p '(' = true) (hclose : p ')' = true)
    (hcomma : p ',' = true) (depth : Nat) (cs : List Char) :
    outerCommas depth (cs.filter p) = outerCommas depth cs := by
  induction cs generalizing depth with
  | nil => rfl
  | cons c cs ih =>
    cases hp : p c with
    | true => rw [List.filter_cons_of_pos hp, outerCommas_cons, outerCommas_cons, ih]
    | false =>
      have hdeepen : deepen depth c = depth := by
        refine deepen_of_ne ?_ ?_ depth <;> rintro rfl <;> simp_all
      have hc : c ≠ ',' := by
        rintro rfl
        simp_all
      rw [List.filter_cons_of_neg (by simp [hp]), outerCommas_cons, hdeepen, ih]
      simp [hc]

/-! ## 2. Parts -/

/-- The parts of a text between the commas outside of parentheses. -/
def parts (depth : Nat) (cs : List Char) : List (List Char) :=
  (split depth cs).1 :: (split depth cs).2

theorem parts_nil (depth : Nat) : parts depth [] = [[]] := rfl

theorem parts_comma (rest : List Char) : parts 0 (',' :: rest) = [] :: parts 0 rest := by
  simp [parts, split]

theorem parts_cons {depth : Nat} {c : Char} (h : ¬(c = ',' ∧ depth = 0)) (rest : List Char) :
    parts depth (c :: rest) = (parts (deepen depth c) rest).modifyHead (c :: ·) := by
  simp only [parts, split, if_neg h, List.modifyHead]
  rfl

/-- There is one part more than there are commas. -/
theorem length_parts (depth : Nat) (cs : List Char) :
    (parts depth cs).length = outerCommas depth cs + 1 := by
  induction cs generalizing depth with
  | nil => rfl
  | cons c cs ih =>
    rw [outerCommas_cons]
    by_cases h : c = ',' ∧ depth = 0
    · obtain ⟨rfl, rfl⟩ := h
      simp [parts_comma, ih, deepen]
    · simp [parts_cons h, ih, h]

/-- With the commas between them, the parts are the text. -/
theorem intercalate_parts (depth : Nat) (cs : List Char) :
    [','].intercalate (parts depth cs) = cs := by
  induction cs generalizing depth with
  | nil => rfl
  | cons c cs ih =>
    by_cases h : c = ',' ∧ depth = 0
    · obtain ⟨rfl, rfl⟩ := h
      rw [parts_comma, parts, List.intercalate_cons_cons]
      simpa [parts] using ih 0
    · have hrest := ih (deepen depth c)
      rw [parts_cons h]
      rw [parts] at hrest ⊢
      cases hothers : (split (deepen depth c) cs).2 with
      | nil => simpa [hothers] using hrest
      | cons p ps =>
        rw [hothers, List.intercalate_cons_cons] at hrest
        rw [List.modifyHead, List.intercalate_cons_cons]
        simpa using hrest

/-- What sets the parts of a text apart: none has a comma outside of its
parentheses, and none but the last leaves a parenthesis open. Before the first one
there are `depth` open. -/
def Apart (depth : Nat) : List (List Char) → Prop
  | [] => True
  | [part] => outerCommas depth part = 0
  | part :: next :: others =>
    outerCommas depth part = 0 ∧ nesting depth part = 0 ∧ Apart 0 (next :: others)

/-- Parts that begin outside of parentheses. -/
theorem apart_iff {ps : List (List Char)} :
    Apart 0 ps ↔ (∀ p ∈ ps, outerCommas 0 p = 0) ∧ ∀ p ∈ ps.dropLast, nesting 0 p = 0 := by
  induction ps with
  | nil => simp [Apart]
  | cons p ps ih =>
    cases ps with
    | nil => simp [Apart]
    | cons next others =>
      simp only [Apart, ih, List.dropLast_cons_cons, List.forall_mem_cons]
      tauto

/-- A character in front of the first part, of which it makes no comma. -/
theorem Apart.modifyHead {depth : Nat} {c : Char} (hc : ¬(c = ',' ∧ depth = 0))
    {ps : List (List Char)} (h : Apart (deepen depth c) ps) :
    Apart depth (ps.modifyHead (c :: ·)) := by
  have hcommas : ∀ p, outerCommas (deepen depth c) p = 0 → outerCommas depth (c :: p) = 0 := by
    intro p hp
    rw [outerCommas_cons, hp, if_neg hc]
  match ps, h with
  | [], _ => trivial
  | [p], h => exact hcommas p h
  | p :: next :: others, h => exact ⟨hcommas p h.1, h.2.1, h.2.2⟩

/-- **The parts of a text are set apart.** -/
theorem apart_parts (depth : Nat) (cs : List Char) : Apart depth (parts depth cs) := by
  induction cs generalizing depth with
  | nil => rfl
  | cons c cs ih =>
    by_cases h : c = ',' ∧ depth = 0
    · obtain ⟨rfl, rfl⟩ := h
      rw [parts_comma]
      exact ⟨rfl, rfl, ih 0⟩
    · rw [parts_cons h]
      exact (ih (deepen depth c)).modifyHead h

theorem parts_of_outerCommas {depth : Nat} {part : List Char} (h : outerCommas depth part = 0) :
    parts depth part = [part] := by
  obtain ⟨only, honly⟩ := List.length_eq_one_iff.1 ((length_parts depth part).trans (by rw [h]))
  have htext := intercalate_parts depth part
  rw [honly, List.intercalate_singleton] at htext
  rw [honly, htext]

/-- A part that is set apart from what follows is cut off. -/
theorem parts_append {depth : Nat} {part : List Char} (hcommas : outerCommas depth part = 0)
    (hnesting : nesting depth part = 0) (rest : List Char) :
    parts depth (part ++ ',' :: rest) = part :: parts 0 rest := by
  induction part generalizing depth with
  | nil =>
    obtain rfl : depth = 0 := hnesting
    exact parts_comma rest
  | cons c part ih =>
    rw [outerCommas_cons, Nat.add_eq_zero_iff] at hcommas
    obtain ⟨hcommas, hc⟩ := hcommas
    have hc : ¬(c = ',' ∧ depth = 0) := by
      intro h
      simp [h] at hc
    rw [List.cons_append, parts_cons hc, ih hcommas hnesting]
    rfl

/-! ## 3. Trimmed parts -/

/-- The parts of a text without the white space at their ends. -/
def trimmedParts (cs : List Char) : List (List Char) :=
  (parts 0 cs).map trimChars

/-- White space in front of a text belongs to its first part. -/
theorem trimmedParts_trimStartChars (cs : List Char) :
    trimmedParts (trimStartChars cs) = trimmedParts cs := by
  induction cs with
  | nil => rfl
  | cons c cs ih =>
    cases hc : isBlank c with
    | false => rw [trimStartChars, List.dropWhile_cons_of_neg (by simp [hc])]
    | true =>
      have hsep : ¬(c = ',' ∧ (0 : Nat) = 0) := by
        rintro ⟨rfl, -⟩
        cases hc
      have hdeepen : deepen 0 c = 0 := by
        refine deepen_of_ne ?_ ?_ 0 <;> rintro rfl <;> cases hc
      rw [trimStartChars, List.dropWhile_cons_of_pos hc, ← trimStartChars, ih, trimmedParts,
        trimmedParts, parts_cons hsep, hdeepen, parts]
      simp [trimChars_cons_of_isBlank hc]

/-- White space behind a text belongs to its last part. -/
theorem map_trimEndChars_parts (depth : Nat) (cs : List Char) :
    (parts depth (trimEndChars cs)).map trimEndChars = (parts depth cs).map trimEndChars := by
  induction cs generalizing depth with
  | nil => rfl
  | cons c cs ih =>
    by_cases h : c = ',' ∧ depth = 0
    · obtain ⟨rfl, rfl⟩ := h
      rw [trimEndChars_cons_of_not_isBlank rfl, parts_comma, parts_comma, List.map_cons,
        List.map_cons, ih]
    · have hhead : ∀ rest, (parts depth (c :: rest)).map trimEndChars
          = ((parts (deepen depth c) rest).map trimEndChars).modifyHead fun kept =>
              if kept = [] ∧ isBlank c = true then [] else c :: kept := by
        intro rest
        rw [parts_cons h, parts, List.modifyHead]
        simp [trimEndChars_cons]
      rw [hhead, ← ih, trimEndChars_cons]
      split
      · next hblank => simp [hblank, parts_nil]
      · rw [hhead]

theorem trimmedParts_trimEndChars (cs : List Char) :
    trimmedParts (trimEndChars cs) = trimmedParts cs := by
  have htrim : ∀ ps : List (List Char), ps.map trimChars = (ps.map trimEndChars).map trimChars := by
    intro ps
    simp [trimChars_trimEndChars]
  rw [trimmedParts, htrim, map_trimEndChars_parts, ← htrim, trimmedParts]

/-- **White space around a text makes no difference to its parts.** -/
theorem trimmedParts_trimChars (cs : List Char) :
    trimmedParts (trimChars cs) = trimmedParts cs := by
  rw [trimChars, trimmedParts_trimEndChars, trimmedParts_trimStartChars]

theorem outerCommas_trimChars (depth : Nat) (cs : List Char) :
    outerCommas depth (trimChars cs) = outerCommas depth cs := by
  rw [← outerCommas_filter (p := fun c => !isBlank c) rfl rfl rfl, filter_trimChars,
    outerCommas_filter rfl rfl rfl]

theorem nesting_trimChars (depth : Nat) (cs : List Char) :
    nesting depth (trimChars cs) = nesting depth cs := by
  rw [← nesting_filter (p := fun c => !isBlank c) rfl rfl, filter_trimChars,
    nesting_filter rfl rfl]

/-- Parts that are trimmed stay apart. -/
theorem apart_map_trimChars {ps : List (List Char)} :
    Apart 0 (ps.map trimChars) ↔ Apart 0 ps := by
  simp only [apart_iff, ← List.map_dropLast, List.forall_mem_map, outerCommas_trimChars,
    nesting_trimChars]

/-- **Parts that are set apart are read again from the text that shows them.** -/
theorem trimmedParts_intercalate : ∀ {ps : List (List Char)}, ps ≠ [] → Apart 0 ps →
    trimmedParts (", ".toList.intercalate ps) = ps.map trimChars
  | [part], _, h => by
      rw [List.intercalate_singleton, trimmedParts, parts_of_outerCommas h]
  | part :: next :: others, _, h => by
      have hrest := trimmedParts_intercalate (List.cons_ne_nil next others) h.2.2
      have hspace : ∀ rest, trimmedParts (' ' :: rest) = trimmedParts rest := by
        intro rest
        rw [← trimmedParts_trimStartChars, ← trimmedParts_trimStartChars rest]
        rfl
      have htext : ", ".toList.intercalate (part :: next :: others)
          = part ++ ',' :: ' ' :: ", ".toList.intercalate (next :: others) := by
        simp [List.intercalate_cons_cons]
      rw [htext, trimmedParts, parts_append h.1 h.2.1, List.map_cons, ← trimmedParts, hspace,
        hrest]
      rfl

/-! ## 4. Declarations -/

/-- What a declaration is read as, from its parts. -/
theorem parse_eq (s : String) :
    parse s = if outerCommas 0 (trimChars s.toList) = 0 then .expression (trim s)
      else .columns ((trimmedParts s.toList).map String.ofList) := by
  have hlength := length_parts 0 (trimChars s.toList)
  rw [← trimmedParts_trimChars, trimmedParts]
  rcases hsplit : split 0 (trimChars s.toList) with ⟨first, others⟩
  rw [parts, hsplit, List.length_cons, Nat.add_right_cancel_iff] at hlength
  simp only [parse, parts, hsplit]
  rw [← hlength]
  cases others with
  | nil => rfl
  | cons p ps => simp [Function.comp_def]

/-- A declaration of one expression has it trimmed, and no comma stands outside of
its parentheses. -/
theorem expression_of_parse {s text : String} (h : parse s = .expression text) :
    text = trim s ∧ outerCommas 0 (trimChars s.toList) = 0 := by
  rw [parse_eq] at h
  split at h
  · next hcommas =>
    cases h
    exact ⟨rfl, hcommas⟩
  · cases h

theorem toList_render (names : List String) :
    (render (.columns names)).toList = ", ".toList.intercalate (names.map String.toList) :=
  String.toList_intercalate

/-- What several columns are read as when they are shown. -/
theorem parse_render_columns {names : List String} (h : 2 ≤ names.length)
    (hapart : Apart 0 (names.map String.toList)) :
    parse (render (.columns names)) = .columns (names.map trim) := by
  have hne : names.map String.toList ≠ [] := by
    intro hnil
    rw [List.map_eq_nil_iff] at hnil
    simp [hnil] at h
  have hparts := trimmedParts_intercalate hne hapart
  rw [← toList_render] at hparts
  have hcommas : outerCommas 0 (trimChars (render (.columns names)).toList) ≠ 0 := by
    have hlength := congrArg List.length hparts
    rw [trimmedParts, List.length_map, length_parts] at hlength
    rw [outerCommas_trimChars]
    simp only [List.length_map] at hlength
    omega
  rw [parse_eq, if_neg hcommas, hparts]
  simp [Function.comp_def, trim]

/-- A declaration of several columns has them trimmed and set apart. -/
theorem columns_of_parse {s : String} {names : List String} (h : parse s = .columns names) :
    2 ≤ names.length ∧ (∀ name ∈ names, trim name = name) ∧
      Apart 0 (names.map String.toList) := by
  rw [parse_eq] at h
  split at h
  · cases h
  · next hcommas =>
    cases h
    rw [outerCommas_trimChars] at hcommas
    refine ⟨?_, ?_, ?_⟩
    · rw [List.length_map, trimmedParts, List.length_map, length_parts]
      omega
    · intro name hname
      simp only [trimmedParts, List.mem_map] at hname
      obtain ⟨_, ⟨part, -, rfl⟩, rfl⟩ := hname
      rw [trim_eq_self_iff, String.toList_ofList, trimChars_trimChars]
    · have htexts : ((trimmedParts s.toList).map String.ofList).map String.toList
          = trimmedParts s.toList := by simp
      rw [htexts, trimmedParts, apart_map_trimChars]
      exact apart_parts 0 s.toList

theorem parse_trim (s : String) : parse (trim s) = parse s := by
  rw [parse_eq, parse_eq, toList_trim, trimChars_trimChars, trimmedParts_trimChars, trim_trim]

theorem map_trim_of_trimmed {names : List String} (h : ∀ name ∈ names, trim name = name) :
    names.map trim = names :=
  (List.map_congr_left h).trans (List.map_id names)

theorem parse_render_parse (s : String) : parse (parse s).render = parse s := by
  cases hs : parse s with
  | expression text =>
    obtain ⟨rfl, -⟩ := expression_of_parse hs
    have hshown : (expression (trim s)).render = trim s := by simp [render, names]
    rw [hshown, parse_trim, hs]
  | columns names =>
    obtain ⟨hlength, hnames, hapart⟩ := columns_of_parse hs
    rw [parse_render_columns hlength hapart, map_trim_of_trimmed hnames]

theorem trim_of_mem_names_parse {s name : String} (h : name ∈ (parse s).names) :
    trim name = name := by
  cases hs : parse s with
  | expression text =>
    obtain ⟨rfl, -⟩ := expression_of_parse hs
    rw [hs, names, List.mem_singleton] at h
    rw [h, trim_trim]
  | columns names =>
    rw [hs] at h
    exact (columns_of_parse hs).2.1 name h

theorem length_names_parse (s : String) :
    (parse s).names.length = outerCommas 0 (trimChars s.toList) + 1 := by
  rw [parse_eq]
  split
  · next hcommas =>
    rw [hcommas]
    rfl
  · rw [names, List.length_map, trimmedParts, List.length_map, length_parts,
      outerCommas_trimChars]

/-- **Which lists of names are read again as they were.** No name has a comma
outside of its own parentheses, and none leaves a parenthesis open for the next
one. -/
theorem parse_ofColumns_iff {names : List String} (hlength : 2 ≤ names.length)
    (hnames : ∀ name ∈ names, trim name = name) :
    parse (ofColumns names).render = .columns names ↔
      (∀ name ∈ names, outerCommas 0 name.toList = 0) ∧
        ∀ name ∈ names.dropLast, nesting 0 name.toList = 0 := by
  have hapart : Apart 0 (names.map String.toList) ↔
      (∀ name ∈ names, outerCommas 0 name.toList = 0) ∧
        ∀ name ∈ names.dropLast, nesting 0 name.toList = 0 := by
    simp only [apart_iff, ← List.map_dropLast, List.forall_mem_map]
  rw [ofColumns, map_trim_of_trimmed hnames, ← hapart]
  constructor
  · intro hread
    exact (columns_of_parse hread).2.2
  · intro h
    rw [parse_render_columns hlength h, map_trim_of_trimmed hnames]

/-- **Declarations survive being shown.** What a text declares is read again from
what is shown of it. Its names are trimmed, and there is one more of them than
commas outside of parentheses. Several trimmed names are read again as they were
where they are set apart, and nowhere else. -/
theorem parse_round_trip (s : String) :
    (parse (parse s).render = parse s ∧ (parse (parse s).render).arity = (parse s).arity) ∧
    (∀ name ∈ (parse s).names, trim name = name) ∧
    (parse s).names.length = outerCommas 0 (trimChars s.toList) + 1 ∧
    ∀ names : List String, 2 ≤ names.length → (∀ name ∈ names, trim name = name) →
      (parse (ofColumns names).render = .columns names ↔
        (∀ name ∈ names, outerCommas 0 name.toList = 0) ∧
          ∀ name ∈ names.dropLast, nesting 0 name.toList = 0) := by
  have hround := parse_render_parse s
  refine ⟨⟨hround, by rw [hround]⟩, ?_, length_names_parse s, ?_⟩
  · intro name hname
    exact trim_of_mem_names_parse hname
  · intro names hlength hnames
    exact parse_ofColumns_iff hlength hnames

/-- Names with commas inside parentheses, a parenthesis that closes nothing, an empty
name, and a parenthesis that stays open. -/
theorem parse_round_trip_of_parentheses :
    let s := " id ,IF(a>1,1,0) AS flag, b),,\u3000(c, d"
    let names := ["IF(a>1, 1, 0) AS flag", "", "COUNT(*)"]
    parse s = .columns ["id", "IF(a>1,1,0) AS flag", "b)", "", "(c, d"] ∧
      parse (parse s).render = parse s ∧ parse (ofColumns names).render = .columns names := by
  intro s names
  obtain ⟨⟨hround, -⟩, -, -, hnames⟩ := parse_round_trip s
  refine ⟨by decide +kernel, hround, (hnames names ?_ ?_).2 ⟨?_, ?_⟩⟩ <;> decide +kernel

end SearchSql.Fields
