/-
SearchSql.Proofs.ColumnLists — the columns of a statement that writes, as its
text shows them.

A builder counts the columns that were declared. The daemon counts the names
between the commas of the list, and takes the list to end where its parenthesis
is closed. The two agree where no declared name has a comma or a parenthesis,
but a name keeps both when it is cleaned, for the sake of full-text fields.

* `columnsText?`, `columnNames` — the list of columns of a text and its names.
* `ColumnsFit` — the list has a name for each value of every row, and its
  parentheses are balanced.
* `Builder.columnsFit_iff` — which declarations come to a text whose columns
  fit; `Builder.not_columnsFit_of_comma` is one that does not.
-/
import SearchSql.Proofs.CallOrder
import SearchSql.Proofs.Parentheses
import SearchSql.Proofs.WrittenRows

namespace SearchSql

open SearchSql.Text

/-! ## 1. The columns in a text -/

/-- The list of columns of a statement that writes: what stands behind its first
parenthesis, up to the first `) VALUES `. -/
def columnsText? (sql : String) : Option (List Char) :=
  (sql.toList.dropInfix? ") VALUES ".toList).map fun (head, _) =>
    (head.dropWhile (· != '(')).drop 1

/-- The names of a list of columns, between its commas. -/
def columnNames (columns : List Char) : List (List Char) :=
  (pieces ',' columns).1 :: (pieces ',' columns).2

/-- As the text of a statement shows them, its columns have a name for each value
of every row, and no parenthesis of theirs closes the list or leaves it open. -/
def ColumnsFit (sql : String) : Prop :=
  ∃ columns rows, columnsText? sql = some columns ∧ readRows? sql = some rows ∧
    (∀ row ∈ rows, (columnNames columns).length = row.length) ∧ level? 0 columns = some 0

/-! ## 2. Names between commas -/

/-- There is one part more than there are marks. -/
theorem length_pieces (mark : Char) : ∀ cs : List Char,
    (pieces mark cs).2.length = cs.count mark
  | [] => rfl
  | c :: cs => by
      have ih := length_pieces mark cs
      by_cases h : c = mark
      · subst h
        simp [pieces, ih]
      · simp [pieces, h, ih]

/-- Names with commas between them have as many more commas as stand in the
names themselves. -/
theorem count_intercalate : ∀ {names : List String}, names ≠ [] →
    (", ".intercalate names).toList.count ',' + 1
      = names.length + (names.flatMap String.toList).count ','
  | [name], _ => by simp [Nat.add_comm]
  | name :: other :: names, _ => by
      have ih := count_intercalate (List.cons_ne_nil other names)
      have hcomma : ", ".toList.count ',' = 1 := rfl
      rw [String.intercalate_cons_cons, String.toList_append, String.toList_append,
        List.count_append, List.count_append, hcomma, List.flatMap_cons, List.count_append,
        List.length_cons]
      omega

/-- So there is one name for each declared name where none of them has a
comma. -/
theorem length_columnNames_eq_iff {names : List String} (h : names ≠ []) :
    (columnNames (", ".intercalate names).toList).length = names.length ↔
      ∀ name ∈ names, ',' ∉ name.toList := by
  have hcount := count_intercalate h
  have hcommas : (names.flatMap String.toList).count ',' = 0 ↔
      ∀ name ∈ names, ',' ∉ name.toList := by
    rw [List.count_eq_zero, List.mem_flatMap]
    simp
  rw [← hcommas, columnNames, List.length_cons, length_pieces]
  omega

/-! ## 3. Parentheses -/

/-- The separator between names has no parentheses. -/
theorem level?_intercalate : ∀ (names : List String) (level : Nat),
    level? level (", ".intercalate names).toList = level? level (names.flatMap String.toList)
  | [], _ => by simp
  | [name], _ => by simp
  | name :: other :: names, level => by
      have hcomma : ∀ inside rest, level? inside (", ".toList ++ rest) = level? inside rest :=
        fun inside rest => rfl
      rw [String.intercalate_cons_cons, String.toList_append, String.toList_append,
        List.append_assoc, List.flatMap_cons, level?_append, level?_append]
      simp only [hcomma, level?_intercalate (other :: names)]

/-! ## 4. Statements -/

namespace Builder

variable {b : Builder} {t : Target}

theorem columnsText?_writeText (ht : t.WellFormed) (hk : t.kind = .insert ∨ t.kind = .replace) :
    columnsText? (b.writeText t) = some t.fields.render.toList := by
  have hkeyword : '(' ∉ t.kind.keyword.toList := by
    rcases hk with hk | hk <;> rw [hk] <;> decide
  have hindex : '(' ∉ t.index.toList := by
    intro hc
    exact absurd (ht.index.chars '(' hc) (by decide)
  have hopening : '(' ∉ (t.kind.keyword ++ " INTO " ++ t.index ++ " ").toList := by
    simp [hkeyword, hindex]
  have htext : (t.kind.keyword ++ " INTO " ++ t.index ++ " (").toList ++ t.fields.render.toList
      = (t.kind.keyword ++ " INTO " ++ t.index ++ " ").toList ++ '(' :: t.fields.render.toList := by
    simp
  have hskip : ∀ c ∈ (t.kind.keyword ++ " INTO " ++ t.index ++ " ").toList, (c != '(') = true := by
    intro c hc
    rw [bne_iff_ne]
    rintro rfl
    exact hopening hc
  simp only [columnsText?, dropInfix?_writeText ht hk, Option.map_some, htext]
  rw [List.dropWhile_append_of_pos hskip]
  rfl

/-- Where all rows have one length and there is one to compare with, their literals
have this length too. -/
theorem forall_length_literals_iff {rows : List (List Value)} {width : Nat} (hne : rows ≠ [])
    (hrows : ∀ row ∈ rows, row.length = width) (n : Nat) :
    (∀ literals ∈ rows.map fun row => row.map Value.literal, n = literals.length) ↔
      n = width := by
  obtain ⟨row, hmem⟩ := List.exists_mem_of_ne_nil rows hne
  constructor
  · intro h
    rw [h _ (List.mem_map_of_mem hmem), List.length_map, hrows row hmem]
  · intro h literals hliterals
    obtain ⟨other, hother, rfl⟩ := List.mem_map.1 hliterals
    rw [h, List.length_map, hrows other hother]

/-- The columns of a statement that writes, in terms of the names of its
target. -/
theorem columnsFit_draft (hb : b.WellFormed) (ht : b.target = some t)
    (hk : t.kind = .insert ∨ t.kind = .replace) {names : List String}
    (hnames : t.fields = .columns names) {s : Statement} (hs : b.draft = .ok s) :
    ColumnsFit s.sql ↔ (∀ name ∈ names, ',' ∉ name.toList) ∧
      level? 0 (names.flatMap String.toList) = some 0 := by
  obtain ⟨t', ht', hcases⟩ := draft_ok_cases hb hs
  obtain rfl : t' = t := Option.some.inj (ht'.symm.trans ht)
  obtain ⟨htk, -⟩ | ⟨htk, -⟩ | ⟨-, ⟨hne, hrows⟩, rfl⟩ := hcases
  · simp [htk] at hk
  · simp [htk] at hk
  · have hwf := hb.target t' ht
    have hread := readRows?_of_draft hb hs hk
    have hnil : names ≠ [] := by
      obtain ⟨others, hothers, hne, -⟩ := hwf.columns hk
      rw [hnames] at hothers
      exact Fields.columns.inj hothers ▸ hne
    have hcolumns : columnsText? (b.writeText t') = some (", ".intercalate names).toList := by
      rw [columnsText?_writeText hwf hk, hnames]
      rfl
    have hlengths : (∀ row ∈ b.rows.map fun row => row.map Value.literal,
          (columnNames (", ".intercalate names).toList).length = row.length) ↔
        (columnNames (", ".intercalate names).toList).length = names.length := by
      rw [hnames] at hrows
      exact forall_length_literals_iff hne hrows _
    rw [← length_columnNames_eq_iff hnil, ← hlengths, ← level?_intercalate names 0]
    constructor
    · rintro ⟨columns, rows, hc, hr, hfit⟩
      rw [hcolumns, Option.some.injEq] at hc
      rw [hread, Option.some.injEq] at hr
      subst hc hr
      exact hfit
    · intro hfit
      exact ⟨_, _, hcolumns, hread, hfit⟩

end Builder

/-! ## 5. Declarations -/

/-- Cleaned names, one behind the other, are the declared ones without the
characters that may not stand in names. -/
theorem Name.flatMap_of_fields : ∀ {ss names : List String}, fields ss = .ok names →
    names.flatMap String.toList = (ss.flatMap String.toList).filter isFieldChar
  | [], names, h => by
      cases h
      rfl
  | s :: rest, names, h => by
      obtain ⟨name, hname, h⟩ := bind_eq_ok_iff.1 h
      obtain ⟨others, hothers, h⟩ := bind_eq_ok_iff.1 h
      cases h
      rw [List.flatMap_cons, List.flatMap_cons, List.filter_append, flatMap_of_fields hothers,
        (field_eq_ok_iff.1 hname).2, String.toList_ofList]

namespace Builder

/-- Rows that are given behind the start of a statement leave its target. -/
theorem target_declare_rows {c : Call} (hc : c.topic = .start) (b : Builder)
    (rows : List (List Value)) :
    (b.declare (c :: rows.map .values)).target = (b.call c).2.target := by
  have hrows : Topic.start.calls (rows.map .values) = [] := by
    simp [Topic.calls, Call.topic]
  have hcalls : Topic.start.calls (c :: rows.map .values) = [c] := by
    rw [Topic.calls, List.filter_cons_of_pos (by simp [hc])]
    exact congrArg (c :: ·) hrows
  have hsame : SameAt .start (b.declare (c :: rows.map .values))
      (b.declare (Topic.start.calls (c :: rows.map .values))) :=
    (SameAt.refl .start b).declare_calls
  rw [hcalls] at hsame
  exact hsame

/-- What a statement that writes is declared with, where it compiles. -/
theorem target_declare_writing {p : Paging} {kind : Kind} {index : String} {columns : Fields}
    {c : Call} (hc : c.topic = .start) (hcheck : c.check = Change.writing kind index columns)
    (rows : List (List Value)) {s : Statement}
    (hs : ((ofPaging p).declare (c :: rows.map .values)).draft = .ok s) :
    ∃ name names, Name.fields columns.names = .ok names ∧
      ((ofPaging p).declare (c :: rows.map .values)).target
        = some ⟨kind, name, .columns names⟩ := by
  have htarget := target_declare_rows hc (ofPaging p) rows
  rw [call_snd, hcheck] at htarget
  cases hwriting : Change.writing kind index columns with
  | error e =>
    rw [hwriting] at htarget
    rw [draft, htarget] at hs
    cases hs
  | ok change =>
    obtain ⟨-, names, name, hnames, -, rfl⟩ := Change.target_of_writing hwriting
    rw [hwriting] at htarget
    exact ⟨name, names, hnames, htarget⟩

/-- **The columns of a text fit its rows exactly when no declared name has a comma
and the parentheses of the names are balanced.** The declaration may be of any
form, and so may the rows. -/
theorem columnsFit_iff {p : Paging} {index : String} {columns : Fields} {c : Call}
    (hc : c = .insertInto index columns ∨ c = .replaceInto index columns)
    (rows : List (List Value)) {s : Statement}
    (hs : ((ofPaging p).declare (c :: rows.map .values)).compile.result = .ok s) :
    ColumnsFit s.sql ↔ (∀ name ∈ columns.names, ',' ∉ name.toList) ∧
      level? 0 (columns.names.flatMap String.toList) = some 0 := by
  have hcommas : ∀ names : List String,
      (∀ name ∈ names, ',' ∉ name.toList) ↔ ',' ∉ names.flatMap String.toList := by simp
  rw [result_compile] at hs
  have hb := (reachable_run p ((c :: rows.map .values).map .declare)).wellFormed
  obtain ⟨kind, hkind, hcheck⟩ : ∃ kind : Kind, (kind = .insert ∨ kind = .replace) ∧
      c.check = Change.writing kind index columns := by
    rcases hc with rfl | rfl
    · exact ⟨.insert, .inl rfl, rfl⟩
    · exact ⟨.replace, .inr rfl, rfl⟩
  have hstart : c.topic = .start := by rcases hc with rfl | rfl <;> rfl
  obtain ⟨name, names, hnames, ht⟩ := target_declare_writing hstart hcheck rows hs
  rw [columnsFit_draft hb ht hkind rfl hs, hcommas, hcommas, Name.flatMap_of_fields hnames,
    level?_filter rfl rfl, List.mem_filter]
  simp [Name.isFieldChar]

/-- A declared text with parentheses that are balanced, and a refused row between
the others. -/
theorem columnsFit_iff_of_parentheses :
    let c : Call := .replaceInto "stock" (.parse " id, na(me), price")
    let rows : List (List Value) := [[.int 7, .text "x, (y", .null], [], [.int 8, .text "", .int 1]]
    let s : Statement := ⟨.replace, "stock",
      "REPLACE INTO stock (id, na(me), price) VALUES (7, 'x, \\\\(y', NULL), (8, '', 1)", .affected⟩
    ((ofPaging .standard).declare (c :: rows.map .values)).compile.result = .ok s ∧
      ColumnsFit s.sql := by
  intro c rows s
  have hs : ((ofPaging .standard).declare (c :: rows.map .values)).compile.result = .ok s := by
    decide +kernel
  exact ⟨hs, (columnsFit_iff (.inr rfl) rows hs).2 (by decide +kernel)⟩

/-- One declared name with a comma passes for one column and stands for two, and
one with a parenthesis closes the list. -/
theorem not_columnsFit_of_comma :
    let comma : Statement :=
      ⟨.insert, "products", "INSERT INTO products (a,b) VALUES (1)", .affected⟩
    let closing : Statement :=
      ⟨.insert, "products", "INSERT INTO products (a)) VALUES (1)", .affected⟩
    (((ofPaging .standard).declare [.insertInto "products" (.ofColumns ["a,b"]),
        .values [.int 1]]).compile.result = .ok comma ∧ ¬ ColumnsFit comma.sql) ∧
      ((ofPaging .standard).declare [.insertInto "products" (.ofColumns ["a)"]),
        .values [.int 1]]).compile.result = .ok closing ∧ ¬ ColumnsFit closing.sql := by
  intro comma closing
  refine ⟨⟨by decide +kernel, ?_⟩, by decide +kernel, ?_⟩
  · rintro ⟨columns, rows, hcolumns, hrows, hfit, -⟩
    have hnames : columnsText? comma.sql = some "a,b".toList := by decide +kernel
    have hone : readRows? comma.sql = some [["1"]] := by decide +kernel
    rw [hnames, Option.some.injEq] at hcolumns
    rw [hone, Option.some.injEq] at hrows
    subst hcolumns hrows
    exact absurd (hfit ["1"] List.mem_cons_self) (by decide)
  · rintro ⟨columns, rows, hcolumns, -, -, hlevel⟩
    have hnames : columnsText? closing.sql = some "a)".toList := by decide +kernel
    rw [hnames, Option.some.injEq] at hcolumns
    subst hcolumns
    exact absurd hlevel (by decide)

end Builder

end SearchSql
