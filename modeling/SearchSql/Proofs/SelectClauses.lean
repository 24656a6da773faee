/-
SearchSql.Proofs.SelectClauses — the clauses of a SELECT are read from its end.

Grouping, order and paging stand behind the condition, and a text in the
condition may spell all of them. So the words of a statement are read backwards.
The paging is always there. A grouping or an order shows its own two words, and
a condition never ends with them: its last word has a quote, or is the end of a
literal that is no direction and has no `BY` before it.

* `wordsFromEnd` — the words of a text, the last one first.
* `readSelect?` — what a SELECT shows: the text up to the end of its condition,
  its grouping, its order and its paging.
* `EndsInValue` — what is known of the end of a condition
  (`Condition.endsInValue_render`).
* `Builder.clauses_of_compile` — the clauses are read back, so equal texts have
  equal clauses.
-/
import SearchSql.Proofs.BoundValues

namespace SearchSql

open SearchSql.Number SearchSql.Text

/-! ## 1. Words -/

/-- The words of a text, between its spaces, the last one first. -/
def wordsFromEnd (text : String) : List String :=
  ((text.toList.splitOn ' ').map String.ofList).reverse

/-- The text whose words are given from its end. -/
def ofWordsFromEnd (words : List String) : String :=
  " ".intercalate words.reverse

theorem ofWordsFromEnd_wordsFromEnd (text : String) :
    ofWordsFromEnd (wordsFromEnd text) = text := by
  have hchars : String.toList ∘ String.ofList = id := funext fun _ => String.toList_ofList
  rw [← String.toList_inj, ofWordsFromEnd, wordsFromEnd, List.reverse_reverse,
    String.toList_intercalate, List.map_map, hchars, List.map_id]
  exact List.intercalate_splitOn ' '

theorem wordsFromEnd_append (s t : String) :
    wordsFromEnd (s ++ " " ++ t) = wordsFromEnd t ++ wordsFromEnd s := by
  have htext : (s ++ " " ++ t).toList = s.toList ++ ' ' :: t.toList := by simp
  rw [wordsFromEnd, htext, List.splitOn_append_cons_self, List.map_append, List.reverse_append]
  rfl

theorem wordsFromEnd_of_word {word : String} (h : ' ' ∉ word.toList) :
    wordsFromEnd word = [word] := by
  rw [wordsFromEnd, List.splitOn_eq_singleton h]
  simp

theorem wordsFromEnd_append_word (s : String) {word : String} (h : ' ' ∉ word.toList) :
    wordsFromEnd (s ++ " " ++ word) = word :: wordsFromEnd s := by
  rw [wordsFromEnd_append, wordsFromEnd_of_word h]
  rfl

/-- Words one after the other, each behind a space. -/
theorem wordsFromEnd_foldl : ∀ {words : List String}, (∀ word ∈ words, ' ' ∉ word.toList) →
    ∀ s : String, wordsFromEnd (words.foldl (· ++ " " ++ ·) s) = words.reverse ++ wordsFromEnd s
  | [], _, _ => rfl
  | word :: words, h, s => by
      obtain ⟨hword, hwords⟩ := List.forall_mem_cons.1 h
      rw [List.foldl_cons, wordsFromEnd_foldl hwords, wordsFromEnd_append_word s hword,
        List.reverse_cons, List.append_assoc]
      rfl

/-- A text ends in a word, and goes on with it where no space follows. -/
theorem exists_last_word (s : String) :
    ∃ last earlier, wordsFromEnd s = last :: earlier ∧
      ∀ word, ' ' ∉ word.toList → wordsFromEnd (s ++ word) = (last ++ word) :: earlier := by
  have hjoin : ∀ {last word : String}, ' ' ∉ last.toList → ' ' ∉ word.toList →
      ' ' ∉ (last ++ word).toList := fun hlast hword => by simp [hlast, hword]
  by_cases hs : ' ' ∈ s.toList
  · obtain ⟨back, rest, hreverse, hback⟩ :=
      List.eq_append_cons_of_mem (List.mem_reverse.2 hs)
    have htext : s = String.ofList rest.reverse ++ " " ++ String.ofList back.reverse := by
      rw [← String.toList_inj, ← List.reverse_inj, hreverse]
      simp
    have hlast : ' ' ∉ (String.ofList back.reverse).toList := by simpa using hback
    refine ⟨String.ofList back.reverse, wordsFromEnd (String.ofList rest.reverse), ?_,
      fun word hword => ?_⟩
    · rw [htext, wordsFromEnd_append_word _ hlast]
    · rw [htext, String.append_assoc, wordsFromEnd_append_word _ (hjoin hlast hword)]
  · exact ⟨s, [], wordsFromEnd_of_word hs, fun word hword => wordsFromEnd_of_word (hjoin hs hword)⟩

/-! ## 2. Reading backwards -/

/-- The number that the digits of a word make. -/
def number (word : String) : Nat :=
  Nat.ofDigitChars 10 (word.toList.filter Char.isDigit) 0

def Direction.ofKeyword? (word : String) : Option Direction :=
  [asc, desc].find? (·.keyword = word)

/-- An order at the end of a text, and the words before it. -/
def readOrder? : List String → Option ((String × Direction) × List String)
  | direction :: column :: by' :: order :: rest =>
    if by' = "BY" ∧ order = "ORDER" then
      (Direction.ofKeyword? direction).map fun d => ((column, d), rest)
    else none
  | _ => none

/-- A grouping at the end of a text, and the words before it. -/
def readGroup? : List String → Option (String × List String)
  | column :: by' :: group :: rest =>
    if by' = "BY" ∧ group = "GROUP" ∧ column.toList.all Name.isFieldChar then some (column, rest)
    else none
  | _ => none

/-- What is read, if it is there, and the words that are left. -/
def optional (read? : List String → Option (α × List String)) (words : List String) :
    Option α × List String :=
  match read? words with
  | some (a, rest) => (some a, rest)
  | none => (none, words)

/-- What the text of a SELECT shows. -/
structure SelectClauses where
  /-- Everything up to the end of the condition. -/
  head : String
  groupBy : Option String
  orderBy : Option (String × Direction)
  paging : Paging
deriving DecidableEq

/-- The clauses of a SELECT. -/
def readSelect? (sql : String) : Option SelectClauses :=
  match wordsFromEnd sql with
  | cap :: _ :: limit :: offset :: _ :: words =>
    let (orderBy, words) := optional readOrder? words
    let (groupBy, words) := optional readGroup? words
    some ⟨ofWordsFromEnd words, groupBy, orderBy,
      ⟨UInt64.ofNat (number offset), UInt64.ofNat (number limit), UInt64.ofNat (number cap)⟩⟩
  | _ => none

/-! ## 3. Texts that end in a value -/

/-- A text whose last word has a quote, or cannot be a direction and has a word
other than `BY` before it. -/
def EndsInValue (text : String) : Prop :=
  ∃ last earlier, wordsFromEnd text = last :: earlier ∧
    ('\'' ∈ last.toList ∨
      'S' ∉ last.toList ∧ ∃ before rest, earlier = before :: rest ∧ before ≠ "BY")

namespace EndsInValue

variable {text : String}

/-- Whatever stands before it. -/
theorem prepend (s : String) (h : EndsInValue text) : EndsInValue (s ++ " " ++ text) := by
  obtain ⟨last, earlier, hwords, hend⟩ := h
  refine ⟨last, earlier ++ wordsFromEnd s, ?_, hend.imp_right ?_⟩
  · rw [wordsFromEnd_append, hwords]
    rfl
  · rintro ⟨hlast, before, rest, rfl, hbefore⟩
    exact ⟨hlast, before, rest ++ wordsFromEnd s, rfl, hbefore⟩

/-- No order ends in a value. -/
theorem readOrder?_eq_none (h : EndsInValue text) : readOrder? (wordsFromEnd text) = none := by
  obtain ⟨last, earlier, hwords, hend⟩ := h
  have hdirection : Direction.ofKeyword? last = none := by
    rw [Direction.ofKeyword?, List.find?_eq_none]
    intro d _ hd
    obtain rfl := of_decide_eq_true hd
    rcases hend with hquote | ⟨hlast, -⟩
    · cases d <;> exact absurd hquote (by decide)
    · cases d <;> exact hlast (by decide)
  rw [hwords]
  unfold readOrder?
  split
  · next heq =>
    rw [← (List.cons.inj heq).1, hdirection]
    split <;> rfl
  · rfl

/-- No grouping ends in a value. -/
theorem readGroup?_eq_none (h : EndsInValue text) : readGroup? (wordsFromEnd text) = none := by
  obtain ⟨last, earlier, hwords, hend⟩ := h
  rw [hwords]
  unfold readGroup?
  split
  · next heq =>
    obtain ⟨rfl, rfl⟩ := List.cons.inj heq
    refine if_neg ?_
    rintro ⟨rfl, rfl, hcolumn⟩
    rcases hend with hquote | ⟨-, before, rest, hearlier, hbefore⟩
    · exact absurd (List.all_eq_true.1 hcolumn _ hquote) (by decide)
    · exact hbefore (List.cons.inj hearlier).1.symm
  · rfl

/-- What follows a quote without a space is in one word with it. -/
theorem of_quote (s : String) {closing : String} (h : ' ' ∉ closing.toList) :
    EndsInValue (s ++ "'" ++ closing) := by
  have hword : ' ' ∉ ("'" ++ closing).toList := by simpa using h
  obtain ⟨last, earlier, -, hwords⟩ := exists_last_word s
  refine ⟨last ++ ("'" ++ closing), earlier, ?_, .inl (by simp)⟩
  rw [String.append_assoc, hwords _ hword]

/-- A literal behind a word other than `BY`, with marks of a list around it. -/
theorem of_literal {s before : String} {rest : List String}
    (hs : wordsFromEnd s = before :: rest) (hbefore : before ≠ "BY") (v : Value)
    {opening closing : String} (hopening : ' ' ∉ opening.toList ∧ 'S' ∉ opening.toList)
    (hclosing : ' ' ∉ closing.toList ∧ 'S' ∉ closing.toList) :
    EndsInValue (s ++ " " ++ (opening ++ v.literal ++ closing)) := by
  rcases v.literal_eq with ⟨t, -, hquoted⟩ | ⟨-, hbare⟩
  · have htext : s ++ " " ++ (opening ++ v.literal ++ closing)
        = s ++ " " ++ opening ++ "'" ++ Literal.escape t ++ "'" ++ closing := by
      simp [hquoted, Literal.quote, ← String.toList_inj]
    rw [htext]
    exact of_quote _ hclosing.1
  · have hliteral : ' ' ∉ v.literal.toList ∧ 'S' ∉ v.literal.toList := by
      rcases hbare with hnull | hnumeral
      · rw [hnull]
        decide
      · exact ⟨fun hc => absurd (hnumeral ' ' hc) (by decide),
          fun hc => absurd (hnumeral 'S' hc) (by decide)⟩
    have hword : ' ' ∉ (opening ++ v.literal ++ closing).toList := by
      simp [hopening.1, hliteral.1, hclosing.1]
    refine ⟨_, _, wordsFromEnd_append_word s hword, .inr ⟨?_, before, rest, hs, hbefore⟩⟩
    simp [hopening.2, hliteral.2, hclosing.2]

/-- A list in parentheses ends in its last value. -/
theorem of_literals {s before : String} {rest : List String}
    (hs : wordsFromEnd s = before :: rest) (hbefore : before ≠ "BY") {values : List Value}
    (hne : values ≠ []) : EndsInValue (s ++ " (" ++ Value.literals values ++ ")") := by
  obtain ⟨init, last, rfl⟩ := (List.eq_nil_or_concat' values).resolve_left hne
  cases init with
  | nil =>
    have htext : s ++ " (" ++ Value.literals ([] ++ [last]) ++ ")"
        = s ++ " " ++ ("(" ++ last.literal ++ ")") := by
      simp [Value.literals, ← String.toList_inj]
    rw [htext]
    exact of_literal hs hbefore last (by decide) (by decide)
  | cons first others =>
    -- A word with the comma of a list is not `BY`.
    obtain ⟨word, earlier, -, hwords⟩ :=
      exists_last_word (s ++ " (" ++ Value.literals (first :: others))
    have hcomma : word ++ "," ≠ "BY" := by
      intro h
      have hmem : ',' ∈ "BY".toList := by simp [← h]
      exact absurd hmem (by decide)
    have hliterals : Value.literals (first :: others ++ [last])
        = Value.literals (first :: others) ++ ", " ++ last.literal := by
      rw [Value.literals, List.map_append,
        String.intercalate_append_of_ne_nil (by simp) (by simp)]
      simp [Value.literals]
    have htext : s ++ " (" ++ Value.literals (first :: others ++ [last]) ++ ")"
        = s ++ " (" ++ Value.literals (first :: others) ++ "," ++ " "
          ++ ("" ++ last.literal ++ ")") := by
      rw [hliterals]
      simp [← String.toList_inj]
    rw [htext]
    exact of_literal (hwords "," (by decide)) hcomma last (by decide) (by decide)

/-- The last of texts with ` AND ` between them counts. -/
theorem intercalate : ∀ {texts : List String}, texts ≠ [] → (∀ text ∈ texts, EndsInValue text) →
    EndsInValue (" AND ".intercalate texts)
  | [text], _, h => by
      rw [String.intercalate_singleton]
      exact h text List.mem_cons_self
  | text :: other :: texts, _, h => by
      have hrest := intercalate (List.cons_ne_nil other texts)
        fun t ht => h t (List.mem_cons_of_mem text ht)
      have hjoin : " AND ".intercalate (text :: other :: texts)
          = text ++ " AND" ++ " " ++ " AND ".intercalate (other :: texts) := by
        rw [String.intercalate_cons_cons, ← String.toList_inj]
        simp
      rw [hjoin]
      exact hrest.prepend _

end EndsInValue

/-- A filter ends in its last value. -/
theorem Predicate.endsInValue_render {p : Predicate} (hp : p.WellFormed)
    (hk : p.isFullText = false) : EndsInValue p.render := by
  cases p with
  | fullText => cases hk
  | comparison field op value =>
    have hop : ' ' ∉ op.symbol.toList ∧ op.symbol ≠ "BY" := by cases op <;> decide
    have hwords := wordsFromEnd_append_word field hop.1
    have htext : (Predicate.comparison field op value).render
        = field ++ " " ++ op.symbol ++ " " ++ ("" ++ value.literal ++ "") := by
      simp [render]
    rw [htext]
    exact .of_literal hwords hop.2 value (by decide) (by decide)
  | between field low high =>
    have hwords : wordsFromEnd (field ++ " BETWEEN " ++ low.literal ++ " " ++ "AND")
        = "AND" :: wordsFromEnd (field ++ " BETWEEN " ++ low.literal) :=
      wordsFromEnd_append_word _ (by decide)
    have htext : (Predicate.between field low high).render
        = field ++ " BETWEEN " ++ low.literal ++ " " ++ "AND" ++ " "
          ++ ("" ++ high.literal ++ "") := by
      simp [render, ← String.toList_inj]
    rw [htext]
    exact .of_literal hwords (by decide) high (by decide) (by decide)
  | membership field values negated =>
    have hwords : wordsFromEnd (field ++ (if negated then " NOT" else "") ++ " " ++ "IN")
        = "IN" :: wordsFromEnd (field ++ if negated then " NOT" else "") :=
      wordsFromEnd_append_word _ (by decide)
    have htext : (Predicate.membership field values negated).render
        = field ++ (if negated then " NOT" else "") ++ " " ++ "IN" ++ " ("
          ++ Value.literals values ++ ")" := by
      cases negated <;> simp [render, ← String.toList_inj]
    rw [htext]
    exact .of_literals hwords (by decide) hp.2

/-- A condition ends in its last value, or in the quote of its `MATCH`. -/
theorem Condition.endsInValue_render {c : Condition} (hc : ∀ p ∈ c.predicates, p.WellFormed)
    (hne : c.predicates ≠ []) : EndsInValue c.render := by
  have htexts : ∀ p ∈ c.predicates, p.render ≠ "" := fun p hp => Predicate.render_ne_empty (hc p hp)
  have hclauses : c.clauses ≠ [] := by
    intro h
    refine hne ((render_eq_empty_iff htexts).1 ?_)
    rw [render_eq htexts, h]
    rfl
  rw [render_eq htexts]
  refine EndsInValue.intercalate hclauses fun text htext => ?_
  rcases List.mem_append.1 htext with htext | htext
  · split at htext
    · cases htext
    · rw [List.mem_singleton] at htext
      have hmatch : text = "MATCH('" ++ c.query ++ "'" ++ ")" := by
        rw [htext, ← String.toList_inj]
        simp
      rw [hmatch]
      exact .of_quote _ (by decide)
  · obtain ⟨p, hp, rfl⟩ := List.mem_map.1 htext
    obtain ⟨hmem, hk⟩ := List.mem_filter.1 hp
    exact Predicate.endsInValue_render (hc p hmem) (by simpa using hk)

/-! ## 4. Options -/

theorem number_natText (before after : String) (n : Nat)
    (hbefore : ∀ c ∈ before.toList, c.isDigit = false)
    (hafter : ∀ c ∈ after.toList, c.isDigit = false) :
    number (before ++ natText n ++ after) = n := by
  have hdigits : (natText n).toList.filter Char.isDigit = Nat.toDigits 10 n := by
    rw [natText, natChars, String.toList_ofList, List.filter_eq_self]
    exact fun c hc => Nat.isDigit_of_mem_toDigits (by decide) (by decide) hc
  have hnone : ∀ {s : String}, (∀ c ∈ s.toList, c.isDigit = false) →
      s.toList.filter Char.isDigit = [] := by
    intro s hs
    rw [List.filter_eq_nil_iff]
    intro c hc
    simp [hs c hc]
  rw [number, String.toList_append, String.toList_append, List.filter_append, List.filter_append,
    hnone hbefore, hnone hafter, hdigits, List.nil_append, List.append_nil,
    Nat.ofDigitChars_ten_toDigits]

namespace Options

/-- The words of a grouping, where it is set; those of an order and of the paging
follow. -/
def groupWords (o : Options) : List String :=
  match o.groupBy with
  | some column => ["GROUP", "BY", column]
  | none => []

def orderWords (o : Options) : List String :=
  match o.orderBy with
  | some (column, direction) => ["ORDER", "BY", column, direction.keyword]
  | none => []

def pagingWords (o : Options) : List String :=
  ["LIMIT", natText o.paging.offset.toNat ++ ",", natText o.paging.limit.toNat, "OPTION",
    "max_matches=" ++ natText o.paging.maxMatches.toNat]

variable {o : Options}

/-- The words of the options of a SELECT, behind those of its condition. -/
theorem wordsFromEnd_append_render (hgroup : ∀ column ∈ o.groupBy, Name.IsField column)
    (horder : ∀ order ∈ o.orderBy, Name.IsField order.1) (head : String) :
    wordsFromEnd (head ++ o.renderOrder ++ o.renderPaging) =
      o.pagingWords.reverse ++ (o.orderWords.reverse ++ (o.groupWords.reverse
        ++ wordsFromEnd head)) := by
  have htext : head ++ o.renderOrder ++ o.renderPaging
      = (o.groupWords ++ o.orderWords ++ o.pagingWords).foldl (· ++ " " ++ ·) head := by
    rw [← String.toList_inj]
    cases hg : o.groupBy <;> cases ho : o.orderBy <;>
      simp [renderOrder, renderPaging, groupWords, orderWords, pagingWords, hg, ho]
  have hnumber : ∀ n, ' ' ∉ (natText n).toList := by
    intro n hc
    rw [natText, String.toList_ofList] at hc
    exact absurd (HasNumeralChars.natChars n ' ' hc) (by decide)
  have hgroupWords : ∀ word ∈ o.groupWords, ' ' ∉ word.toList := by
    rw [groupWords]
    cases hg : o.groupBy with
    | none => simp
    | some column => simpa using (hgroup column hg).space_notMem
  have horderWords : ∀ word ∈ o.orderWords, ' ' ∉ word.toList := by
    rw [orderWords]
    cases ho : o.orderBy with
    | none => simp
    | some order =>
      have hdirection : ' ' ∉ order.2.keyword.toList := by cases order.2 <;> decide
      simpa using ⟨(horder order ho).space_notMem, hdirection⟩
  have hpagingWords : ∀ word ∈ o.pagingWords, ' ' ∉ word.toList := by
    simp [pagingWords, hnumber]
  have hwords : ∀ word ∈ o.groupWords ++ o.orderWords ++ o.pagingWords, ' ' ∉ word.toList :=
    List.forall_mem_append.2 ⟨List.forall_mem_append.2 ⟨hgroupWords, horderWords⟩, hpagingWords⟩
  rw [htext, wordsFromEnd_foldl hwords, List.reverse_append, List.reverse_append,
    List.append_assoc, List.append_assoc]

theorem optional_readOrder? {head : String} (h : EndsInValue head) :
    optional readOrder? (o.orderWords.reverse ++ (o.groupWords.reverse ++ wordsFromEnd head))
      = (o.orderBy, o.groupWords.reverse ++ wordsFromEnd head) := by
  rw [optional, orderWords]
  cases ho : o.orderBy with
  | some order =>
    obtain ⟨column, direction⟩ := order
    cases direction <;> rfl
  | none =>
    have hnone : readOrder? (o.groupWords.reverse ++ wordsFromEnd head) = none := by
      rw [groupWords]
      cases o.groupBy with
      | none => exact h.readOrder?_eq_none
      | some column =>
        -- The words of a grouping are one short of an order's.
        obtain ⟨last, earlier, hwords, -⟩ := h
        rw [hwords]
        rfl
    rw [List.reverse_nil, List.nil_append, hnone]

theorem optional_readGroup? {head : String} (h : EndsInValue head)
    (hgroup : ∀ column ∈ o.groupBy, Name.IsField column) :
    optional readGroup? (o.groupWords.reverse ++ wordsFromEnd head)
      = (o.groupBy, wordsFromEnd head) := by
  rw [optional, groupWords]
  cases hg : o.groupBy with
  | none => rw [List.reverse_nil, List.nil_append, h.readGroup?_eq_none]
  | some column =>
    have hcolumn : column.toList.all Name.isFieldChar = true :=
      List.all_eq_true.2 (hgroup column hg).chars
    have hread : readGroup? (["GROUP", "BY", column].reverse ++ wordsFromEnd head)
        = some (column, wordsFromEnd head) := if_pos ⟨rfl, rfl, hcolumn⟩
    rw [hread]

end Options

/-! ## 5. Statements -/

namespace Builder

/-- What a SELECT begins with. -/
def selectHead (b : Builder) (t : Target) : String :=
  "SELECT " ++ t.fields.render ++ ", WEIGHT() AS weight FROM " ++ t.index ++ " WHERE "
    ++ b.condition.render

variable {b : Builder} {t : Target}

theorem endsInValue_selectHead (hb : b.WellFormed) (hne : b.condition.predicates ≠ []) :
    EndsInValue (b.selectHead t) := by
  have htext : b.selectHead t = "SELECT " ++ t.fields.render ++ ", WEIGHT() AS weight FROM "
      ++ t.index ++ " WHERE" ++ " " ++ b.condition.render := by
    rw [selectHead, ← String.toList_inj]
    simp
  rw [htext]
  exact (Condition.endsInValue_render hb.predicates hne).prepend _

/-- The clauses of a SELECT are those of its builder. -/
theorem readSelect?_selectText (hb : b.WellFormed) (hne : b.condition.predicates ≠ []) :
    readSelect? (b.selectText t) =
      some ⟨b.selectHead t, b.options.groupBy, b.options.orderBy, b.options.paging⟩ := by
  have hend : EndsInValue (b.selectHead t) := endsInValue_selectHead hb hne
  have htext : b.selectText t
      = b.selectHead t ++ b.options.renderOrder ++ b.options.renderPaging := rfl
  have hoffset : number (natText b.options.paging.offset.toNat ++ ",")
      = b.options.paging.offset.toNat := by
    simpa using number_natText "" "," b.options.paging.offset.toNat (by simp) (by simp)
  have hlimit : number (natText b.options.paging.limit.toNat) = b.options.paging.limit.toNat := by
    simpa using number_natText "" "" b.options.paging.limit.toNat (by simp) (by simp)
  have hcap : number ("max_matches=" ++ natText b.options.paging.maxMatches.toNat)
      = b.options.paging.maxMatches.toNat := by
    simpa using
      number_natText "max_matches=" "" b.options.paging.maxMatches.toNat (by simp) (by simp)
  rw [readSelect?, htext, Options.wordsFromEnd_append_render hb.groupBy hb.orderBy]
  simp only [Options.pagingWords, List.reverse_cons, List.reverse_nil, List.nil_append,
    List.cons_append, Options.optional_readOrder? hend,
    Options.optional_readGroup? hend hb.groupBy, ofWordsFromEnd_wordsFromEnd, hoffset, hlimit,
    hcap, UInt64.ofNat_toNat]

theorem readSelect?_of_draft (hb : b.WellFormed) (ht : b.target = some t) (hk : t.kind = .select)
    {s : Statement} (hs : b.draft = .ok s) :
    readSelect? s.sql =
      some ⟨b.selectHead t, b.options.groupBy, b.options.orderBy, b.options.paging⟩ := by
  rw [draft_select hb ht hk] at hs
  split at hs
  · cases hs
  · next hne =>
    cases hs
    exact readSelect?_selectText hb hne

/-- **The clauses of a SELECT are read back.** What is read from the end of a
compiled text are the options of its builder and, before them, the text up to
the end of the condition. So no text in a condition and no name passes for a
clause or hides one: SELECTs with the same fields and the same index that
compile to one text have the same condition, grouping, order and paging. -/
theorem clauses_of_compile (hb : b.Reachable) (ht : b.target = some t) (hk : t.kind = .select)
    {s : Statement} (hs : b.compile.result = .ok s) :
    readSelect? s.sql =
      some ⟨b.selectHead t, b.options.groupBy, b.options.orderBy, b.options.paging⟩ ∧
    ∀ (b' : Builder) (t' : Target) (s' : Statement), b'.Reachable → b'.target = some t' →
      t'.kind = .select → b'.compile.result = .ok s' → t.fields.render = t'.fields.render →
      t.index = t'.index → s.sql = s'.sql →
        b.condition.render = b'.condition.render ∧ b.options.groupBy = b'.options.groupBy ∧
        b.options.orderBy = b'.options.orderBy ∧ b.options.paging = b'.options.paging := by
  rw [result_compile] at hs
  have hread := readSelect?_of_draft hb.wellFormed ht hk hs
  refine ⟨hread, fun b' t' s' hb' ht' hk' hs' hfields hindex hsql => ?_⟩
  rw [result_compile] at hs'
  have heq := readSelect?_of_draft hb'.wellFormed ht' hk' hs'
  rw [← hsql, hread, Option.some.injEq, SelectClauses.mk.injEq] at heq
  obtain ⟨hhead, hgroup, horder, hpaging⟩ := heq
  rw [selectHead, selectHead, hfields, hindex, String.append_right_inj] at hhead
  exact ⟨hhead, hgroup, horder, hpaging⟩

/-- A text that spells an order and the paging before a grouping by a column that
is called like a direction, declared twice in different ways. -/
theorem clauses_of_compile_lookalike :
    let spelled := "x ORDER BY b DESC LIMIT 0, 1 OPTION max_matches=7"
    let b := (ofPaging .standard).run [
      .declare (.selectFrom "products" (.columns ["id", "brand"])),
      .declare (.filter "brand" .eq (.scalar (.text spelled))),
      .declare (.groupBy "ASC")]
    let b' := (ofPaging ⟨5, 6, 1000⟩).run [
      .declare (.groupBy "BY"), .declare (.orderBy "2" .desc), .declare (.limit 0 20),
      .declare (.filter "1brand" .eq (.scalar (.text ("  " ++ spelled ++ "\n")))),
      .declare (.groupBy " ASC; "), .declare (.selectFrom "products" (.parse "id, brand"))]
    let head := "SELECT id, brand, WEIGHT() AS weight FROM products WHERE brand = "
      ++ "'x ORDER BY b DESC LIMIT 0, 1 OPTION max_matches\\\\=7'"
    let s : Statement := ⟨.select, "products",
      head ++ " GROUP BY ASC LIMIT 0, 20 OPTION max_matches=1000", .records⟩
    b.compile.result = .ok s ∧ b'.compile.result = .ok s ∧
      readSelect? s.sql = some ⟨head, some "ASC", none, .standard⟩ ∧
      b.condition.render = b'.condition.render ∧ b.options.groupBy = b'.options.groupBy ∧
      b.options.orderBy = b'.options.orderBy ∧ b.options.paging = b'.options.paging := by
  intro spelled b b' head s
  have hs : b.compile.result = .ok s := by decide +kernel
  have hs' : b'.compile.result = .ok s := by decide +kernel
  have ht : b.target = some ⟨.select, "products", .columns ["id", "brand"]⟩ := by decide
  have ht' : b'.target = some ⟨.select, "products", .columns ["id", "brand"]⟩ := by
    decide +kernel
  obtain ⟨hread, hequal⟩ := clauses_of_compile (reachable_run _ _) ht rfl hs
  have hhead : b.selectHead ⟨.select, "products", .columns ["id", "brand"]⟩ = head := by
    decide +kernel
  rw [hhead] at hread
  exact ⟨hs, hs', hread, hequal b' _ s (reachable_run _ _) ht' rfl hs' rfl rfl rfl⟩

end Builder

end SearchSql
