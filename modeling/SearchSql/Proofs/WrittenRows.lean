/-
SearchSql.Proofs.WrittenRows — the rows of a statement that writes are read
back.

Behind `) VALUES ` a statement has one list in parentheses for each row that
was given since the last statement ended, and in it one literal for each value.
Commas and parentheses in a text stand between quotes, and a reader that minds
quotes and backslashes takes rows and values apart as they were put together.

* `readRows?` — the rows of literals behind the first `) VALUES `.
* `Literal.content?` — the text that a literal was made of.
* `Builder.rows_of_compile` — the rows of a compiled statement, read back, so
  no value gets into another column or row.
-/
import Mathlib.Data.List.Chain
import SearchSql.Proofs.FreshBuilders
import SearchSql.Proofs.LiteralReader
import SearchSql.Proofs.PhraseLayers

namespace SearchSql

open SearchSql.Text

/-! ## 1. The text of the rows -/

/-- What stands behind the first `) VALUES ` of a statement. -/
def valuesText? (sql : String) : Option (List Char) :=
  (sql.toList.dropInfix? ") VALUES ".toList).map Prod.snd

/-- The rows of literals of a statement, read to its end. -/
def readRows? (sql : String) : Option (List (List String)) := do
  let text ← valuesText? sql
  match separated readList [',', ' '] text with
  | some (rows, []) => some rows
  | _ => none

/-- A text without a space behind a closing parenthesis. -/
def NoSpaceBehind (cs : List Char) : Prop :=
  cs.IsChain fun c d => c = ')' → d ≠ ' '

namespace NoSpaceBehind

theorem of_no_parenthesis {cs : List Char} (h : ')' ∉ cs) : NoSpaceBehind cs := by
  rw [NoSpaceBehind, List.isChain_iff_forall_rel_of_append_cons_cons]
  rintro c d earlier later rfl rfl
  exact absurd (by simp) h

theorem of_no_space {cs : List Char} (h : ' ' ∉ cs) : NoSpaceBehind cs := by
  rw [NoSpaceBehind, List.isChain_iff_forall_rel_of_append_cons_cons]
  rintro c d earlier later rfl - rfl
  exact absurd (by simp) h

/-- Texts are put together where the first does not end in a parenthesis or the
second does not begin with a space. -/
theorem append {cs ds : List Char} (hc : NoSpaceBehind cs) (hd : NoSpaceBehind ds)
    (h : ')' ∉ cs ∨ ' ' ∉ ds.head?) : NoSpaceBehind (cs ++ ds) := by
  refine List.IsChain.append hc hd ?_
  rintro c hlast d hhead rfl rfl
  rcases h with h | h
  · exact h (List.mem_of_getLast? hlast)
  · exact h hhead

/-- A list of columns: their names have no space, and a space behind a name is
behind its comma. -/
theorem columns : ∀ {names : List String}, (∀ name ∈ names, Name.IsField name) →
    NoSpaceBehind ((", ".intercalate names).toList ++ [')'])
  | [], _ => by
      rw [String.intercalate_nil]
      exact of_no_space (by decide)
  | [name], h => by
      have hname := of_no_space (h name List.mem_cons_self).space_notMem
      rw [String.intercalate_singleton]
      exact hname.append (of_no_space (by decide)) (.inr (by decide))
  | name :: other :: names, h => by
      have hname := of_no_space (h name List.mem_cons_self).space_notMem
      have hrest := columns fun n hn => h n (List.mem_cons_of_mem name hn)
      have hcomma : NoSpaceBehind ", ".toList := of_no_parenthesis (by decide)
      rw [String.intercalate_cons_cons, String.toList_append, String.toList_append,
        List.append_assoc, List.append_assoc]
      exact hname.append (hcomma.append hrest (.inl (by decide))) (.inr (by simp))

/-- Where no space stands behind a parenthesis of a text, the closing one behind
it included, the first `) VALUES ` is the one behind the text. -/
theorem dropInfix?_values {head : List Char} (h : NoSpaceBehind (head ++ [')']))
    (text : List Char) :
    (head ++ ") VALUES ".toList ++ text).dropInfix? ") VALUES ".toList = some (head, text) := by
  rw [List.dropInfix?_eq_some_iff]
  refine ⟨⟨_, rfl, beq_self_eq_true _⟩, fun head' mark text' htext hmark => ?_⟩
  obtain rfl := eq_of_beq hmark
  by_contra hlt
  -- An earlier one would have its parenthesis and its space in the text.
  have hearlier : head' ++ [')', ' '] <+: head ++ ") VALUES ".toList ++ text :=
    ⟨"VALUES ".toList ++ text', by rw [htext]; simp⟩
  have hclosed : head ++ [')'] <+: head ++ ") VALUES ".toList ++ text :=
    ⟨" VALUES ".toList ++ text, by simp⟩
  have hlength : (head' ++ [')', ' ']).length ≤ (head ++ [')']).length := by
    simp only [List.length_append, List.length_cons, List.length_nil]
    omega
  obtain ⟨later, hlater⟩ := List.prefix_of_prefix_length_le hearlier hclosed hlength
  have hsplit : head ++ [')'] = head' ++ ')' :: ' ' :: later := by
    rw [← hlater, List.append_assoc]
    rfl
  rw [NoSpaceBehind, List.isChain_iff_forall_rel_of_append_cons_cons] at h
  exact h hsplit rfl rfl

end NoSpaceBehind

namespace Builder

/-- The rows of a builder as they stand in a statement. -/
def rowsText (b : Builder) : String :=
  ", ".intercalate (b.rows.map tuple)

variable {b : Builder} {t : Target}

/-- The first `) VALUES ` of a statement that writes stands between its columns
and its rows. -/
theorem dropInfix?_writeText (ht : t.WellFormed) (hk : t.kind = .insert ∨ t.kind = .replace) :
    (b.writeText t).toList.dropInfix? ") VALUES ".toList
      = some ((t.kind.keyword ++ " INTO " ++ t.index ++ " (").toList ++ t.fields.render.toList,
        b.rowsText.toList) := by
  obtain ⟨names, hnames, -, hclean⟩ := ht.columns hk
  have hkeyword : ')' ∉ t.kind.keyword.toList := by
    rcases hk with hk | hk <;> rw [hk] <;> decide
  have hindex : ')' ∉ t.index.toList := by
    intro hc
    exact absurd (ht.index.chars ')' hc) (by decide)
  have hopening : ')' ∉ (t.kind.keyword ++ " INTO " ++ t.index ++ " (").toList := by
    simp [hkeyword, hindex]
  have hhead : NoSpaceBehind ((t.kind.keyword ++ " INTO " ++ t.index ++ " (").toList
      ++ t.fields.render.toList ++ [')']) := by
    rw [List.append_assoc, hnames]
    exact (NoSpaceBehind.of_no_parenthesis hopening).append (NoSpaceBehind.columns hclean)
      (.inl hopening)
  have htext : (b.writeText t).toList = (t.kind.keyword ++ " INTO " ++ t.index ++ " (").toList
      ++ t.fields.render.toList ++ ") VALUES ".toList ++ b.rowsText.toList := by
    simp [writeText, rowsText]
  rw [htext, hhead.dropInfix?_values]

theorem valuesText?_writeText (ht : t.WellFormed) (hk : t.kind = .insert ∨ t.kind = .replace) :
    valuesText? (b.writeText t) = some b.rowsText.toList := by
  rw [valuesText?, dropInfix?_writeText ht hk, Option.map_some]

/-- Rows that are not empty are read row by row. -/
theorem separated_rowsText (hne : b.rows ≠ []) (hrows : ∀ row ∈ b.rows, row ≠ []) :
    separated readList [',', ' '] b.rowsText.toList
      = some (b.rows.map fun row => row.map Value.literal, []) := by
  have htext : b.rowsText.toList
      = [',', ' '].intercalate (b.rows.map fun row => (tuple row).toList) ++ [] := by
    simp [rowsText, String.toList_intercalate, Function.comp_def]
  have hone : ∀ row ∈ b.rows, ∀ rest, True →
      readList ((tuple row).toList ++ rest) = some (row.map Value.literal, rest) :=
    fun row hrow rest _ => Value.readList_literals (hrows row hrow) rest
  rw [htext]
  exact separated_intercalate (List.cons_ne_nil _ _) (fun _ => trivial) hne hone trivial rfl

end Builder

/-! ## 2. Texts -/

namespace Literal

/-- A text without the backslash that the string layer leaves before an
operator. -/
def bare : List Char → List Char
  | '\\' :: c :: rest => if isOperator c then c :: bare rest else '\\' :: bare (c :: rest)
  | c :: rest => c :: bare rest
  | [] => []

/-- The text that a literal was made of: a number as it stands, and what is
between quotes without its escapes. -/
def content? (literal : String) : Option String :=
  match literal.toList with
  | '\'' :: body => (unescape body.dropLast).map fun cs => String.ofList (bare cs)
  | _ => some literal

theorem bare_cons {c : Char} (h : c ≠ '\\') (rest : List Char) :
    bare (c :: rest) = c :: bare rest := by
  rw [bare]
  intro d rest' hc
  exact absurd hc h

/-- No text begins with an operator once it is escaped. -/
theorem isOperator_head_singleEscape (cs : List Char) :
    ∀ c ∈ (cs.flatMap singleEscape).head?, isOperator c = false := by
  intro c hc
  cases cs with
  | nil => cases hc
  | cons d cs =>
    rw [List.flatMap_cons, singleEscape] at hc
    cases hd : isOperator d with
    | true =>
      rw [hd] at hc
      cases hc
      rfl
    | false =>
      rw [hd] at hc
      cases hc
      exact hd

theorem bare_singleEscape : ∀ cs : List Char, bare (cs.flatMap singleEscape) = cs
  | [] => rfl
  | c :: cs => by
      have ih := bare_singleEscape cs
      rw [List.flatMap_cons, singleEscape]
      cases hc : isOperator c with
      | true => simp [bare, hc, ih]
      | false =>
        rw [if_neg Bool.false_ne_true, List.singleton_append]
        by_cases hback : c = '\\'
        · -- A backslash of the text is not before an operator, whatever follows.
          subst hback
          have hhead := isOperator_head_singleEscape cs
          cases hrest : cs.flatMap singleEscape with
          | nil =>
            rw [hrest] at ih
            rw [← ih]
            rfl
          | cons d rest =>
            rw [hrest] at hhead
            rw [bare, hhead d rfl, if_neg Bool.false_ne_true, ← hrest, ih]
        · rw [bare_cons hback, ih]

end Literal

/-- **The literal of a text has the text**, without the white space at its
ends. -/
theorem Value.content?_literal (s : String) :
    Literal.content? (Value.text s).literal = some (trim s) := by
  rw [literal, Literal.ofText]
  split
  · next hnumeric =>
    have hchars : ∀ c ∈ (trim s).toList, c ≠ '\'' := by
      intro c hc
      rw [toList_trim] at hc
      exact (isDelimiter_of_isNumeralChar (HasNumeralChars.of_isNumeric hnumeric c hc)).1
    rw [Literal.content?]
    split
    · next body hbody => exact absurd rfl (hchars '\'' (by simp [hbody]))
    · rfl
  · have htext : (Literal.quote (trim s)).toList
        = '\'' :: (Literal.escapeChars (trimChars s.toList) ++ ['\'']) := by
      simp [Literal.quote]
    have hunescape : Literal.unescape (Literal.escapeChars (trimChars s.toList))
        = some ((trimChars s.toList).flatMap Literal.singleEscape) := by
      simpa [Literal.unescape] using Literal.unescape_escapeChars (trimChars s.toList) []
    rw [Literal.content?, htext]
    simp only [List.dropLast_concat, hunescape, Option.map_some, Literal.bare_singleEscape]
    rfl

/-! ## 3. Statements -/

/-- The text in a row and column of a statement. -/
def contentAt? (sql : String) (row column : Nat) : Option String := do
  let rows ← readRows? sql
  let literals ← rows[row]?
  let literal ← literals[column]?
  Literal.content? literal

namespace Builder

/-- The draft of a statement that writes, read behind `) VALUES `. -/
theorem valuesText?_of_draft {b : Builder} (hb : b.WellFormed) {s : Statement}
    (h : b.draft = .ok s) (hk : s.kind = .insert ∨ s.kind = .replace) :
    b.rows ≠ [] ∧ valuesText? s.sql = some b.rowsText.toList := by
  obtain ⟨t, ht, ⟨-, -, rfl⟩ | ⟨-, -, rfl⟩ | ⟨htk, ⟨hne, -⟩, rfl⟩⟩ := draft_ok_cases hb h
  · simp at hk
  · simp at hk
  · exact ⟨hne, valuesText?_writeText (hb.target t ht) htk⟩

/-- What is read of a draft are the rows of its builder. -/
theorem readRows?_of_draft {b : Builder} (hb : b.WellFormed) {s : Statement}
    (h : b.draft = .ok s) (hk : s.kind = .insert ∨ s.kind = .replace) :
    readRows? s.sql = some (b.rows.map fun row => row.map Value.literal) := by
  obtain ⟨hne, htext⟩ := valuesText?_of_draft hb h hk
  simp only [readRows?, htext, Option.bind_eq_bind, Option.bind_some,
    separated_rowsText hne hb.rows]

/-- What is read of a compiled statement are the rows of its run. -/
theorem readRows?_of_compile (p : Paging) (us : List Use) {s : Statement}
    (hs : ((ofPaging p).run us).compile.result = .ok s)
    (hk : s.kind = .insert ∨ s.kind = .replace) :
    readRows? s.sql
      = some (((recent p us).filterMap Use.row?).map fun row => row.map Value.literal) := by
  rw [result_compile] at hs
  rw [readRows?_of_draft (reachable_run p us).wellFormed hs hk, rows_run]

/-- **The rows of a statement that writes are read back.** Behind `) VALUES `
there is one list for each row that was given since the last statement ended, in
order, and in it one literal for each value. A text is read in its own row and
column, without the white space at its ends. Statements with the same text
behind `) VALUES ` have rows of the same lengths with the same literals. -/
theorem rows_of_compile (p : Paging) (us : List Use) {s : Statement}
    (hs : ((ofPaging p).run us).compile.result = .ok s)
    (hk : s.kind = .insert ∨ s.kind = .replace) :
    let rows := (recent p us).filterMap Use.row?
    readRows? s.sql = some (rows.map fun row => row.map Value.literal) ∧
    (∀ i j row text, rows[i]? = some row → row[j]? = some (.text text) →
      contentAt? s.sql i j = some (trim text)) ∧
    ∀ (p' : Paging) (us' : List Use) (s' : Statement),
      ((ofPaging p').run us').compile.result = .ok s' → s'.kind = .insert ∨ s'.kind = .replace →
      valuesText? s.sql = valuesText? s'.sql →
        rows.map (fun row => row.map Value.literal)
          = ((recent p' us').filterMap Use.row?).map fun row => row.map Value.literal := by
  intro rows
  have hrows := readRows?_of_compile p us hs hk
  refine ⟨hrows, fun i j row text hrow htext => ?_, fun p' us' s' hs' hk' heq => ?_⟩
  · have hi : (rows.map fun row => row.map Value.literal)[i]? = some (row.map Value.literal) := by
      rw [List.getElem?_map, hrow, Option.map_some]
    have hj : (row.map Value.literal)[j]? = some (Value.text text).literal := by
      rw [List.getElem?_map, htext, Option.map_some]
    rw [contentAt?, hrows, Option.bind_eq_bind, Option.bind_some, hi, Option.bind_eq_bind,
      Option.bind_some, hj]
    exact Value.content?_literal text
  · have hsome : readRows? s.sql = readRows? s'.sql := by
      rw [readRows?, readRows?, heq]
    rw [hrows, readRows?_of_compile p' us' hs' hk'] at hsome
    exact Option.some.inj hsome

/-- Texts that look like the end of a row, behind a refused row and rows that
were given up; and a REPLACE with the same text of rows, where the numbers are
given as texts. -/
theorem rows_of_compile_lookalike :
    let us : List Use := [.declare (.values [.null]), .reset, .declare (.values []),
      .declare (.insertInto "products" (.columns ["id", "a)", "VALUES"])),
      .declare (.values [.int 1, .text "'), (", .text " x\\(\\ "]),
      .declare (.values [.int 2, .null, .text ") VALUES (7"])]
    let us' : List Use := [.declare (.replaceInto "stock" (.columns ["id", "a", "b"])),
      .declare (.values [.text " 1 ", .text "'), ( ", .text "x\\(\\"]),
      .declare (.values [.text "2", .null, .text ") VALUES (7"])]
    let text := "(1, '\\'\\\\), \\\\(', 'x\\\\\\\\(\\\\'), (2, NULL, '\\\\) VALUES \\\\(7')"
    let rows := [["1", "'\\'\\\\), \\\\('", "'x\\\\\\\\(\\\\'"],
      ["2", "NULL", "'\\\\) VALUES \\\\(7'"]]
    let s : Statement := ⟨.insert, "products",
      "INSERT INTO products (id, a), VALUES) VALUES " ++ text, .affected⟩
    ((ofPaging .standard).run us).compile.result = .ok s ∧ readRows? s.sql = some rows ∧
      contentAt? s.sql 0 2 = some "x\\(\\" ∧
      rows = ((recent .standard us').filterMap Use.row?).map fun row => row.map Value.literal := by
  intro us us' text rows s
  let s' : Statement := ⟨.replace, "stock", "REPLACE INTO stock (id, a, b) VALUES " ++ text,
    .affected⟩
  have hs : ((ofPaging .standard).run us).compile.result = .ok s := by decide +kernel
  have hs' : ((ofPaging .standard).run us').compile.result = .ok s' := by decide +kernel
  have htext : valuesText? s.sql = valuesText? s'.sql := by decide +kernel
  have hrecent : recent .standard us = us.drop 2 := rfl
  obtain ⟨hread, hcontent, hsame⟩ := rows_of_compile .standard us hs (.inl rfl)
  rw [hrecent] at hread hcontent hsame
  exact ⟨hs, hread, hcontent 0 2 _ " x\\(\\ " rfl rfl,
    hsame .standard us' s' hs' (.inr rfl) htext⟩

end Builder

end SearchSql
