/-
SearchSql.Proofs.PhraseLayers — a phrase read back through both layers of
quoting.

The daemon takes the escapes of the string layer off first. What is left goes
to the full-text layer, which takes a character behind a backslash as it is and
any other metacharacter as an operator. Two backslashes before an operator
become one at the string layer, and that one makes the operator a plain
character.

* `Literal.unescape` — the string layer.
* `Phrase.tokens` — the full-text layer.
* `Phrase.ReadsBack` — the phrase of a term keeps its quotes and anchors, and
  what stands between them has no operator and is the trimmed term.

A backslash of the term itself gets one more backslash, not three. The string
layer takes that one off, and what is left starts an escape at the full-text
layer. So a term reads back exactly when it has no backslash
(`Phrase.readsBack_iff`).
-/
import SearchSql.Phrase
import SearchSql.Proofs.CheckedNames

namespace SearchSql

open SearchSql.Text

/-! ## 1. The two layers -/

/-- The string layer. A quote on its own would close the string, and an
unknown escape has no meaning. -/
def Literal.unescape : List Char → Option (List Char)
  | [] => some []
  | '\\' :: '\\' :: rest => (unescape rest).map ('\\' :: ·)
  | '\\' :: '\'' :: rest => (unescape rest).map ('\'' :: ·)
  | '\\' :: 'n' :: rest => (unescape rest).map ('\n' :: ·)
  | '\\' :: 'r' :: rest => (unescape rest).map ('\r' :: ·)
  | '\\' :: 'x' :: '0' :: '0' :: rest => (unescape rest).map ('\x00' :: ·)
  | '\\' :: 'x' :: '1' :: 'a' :: rest => (unescape rest).map ('\x1a' :: ·)
  | c :: rest => if c = '\\' ∨ c = '\'' then none else (unescape rest).map (c :: ·)

namespace Phrase

/-- What the full-text layer reads. -/
inductive Token
  /-- A character of the text that is searched for. -/
  | literal (c : Char)
  /-- A metacharacter at work. -/
  | operator (c : Char)
deriving DecidableEq

/-- The metacharacters of the full-text layer. The backslash is one too. -/
def isMetachar (c : Char) : Bool :=
  c ∈ ['\\', '(', ')', '|', '-', '!', '@', '~', '"', '&', '/', '^', '$', '=']

/-- The full-text layer. A backslash at the end of a text is at work: it takes
what comes behind the text. -/
def tokens : List Char → List Token
  | [] => []
  | '\\' :: c :: rest => .literal c :: tokens rest
  | c :: rest => (if isMetachar c then .operator c else .literal c) :: tokens rest

/-- The phrase of a term as the full-text layer gets it: between quotes and
anchors no metacharacter is at work, and what is read there is the trimmed
term. -/
def ReadsBack (a : Anchoring) (term : String) : Prop :=
  ∃ body, Literal.unescape (render a term).toList
      = some (['"'] ++ (opening a).toList ++ body ++ (closing a).toList ++ ['"']) ∧
    tokens body = (trimChars term.toList).map .literal

end Phrase

/-! ## 2. The string layer -/

namespace Literal

/-- What the string layer leaves of an escaped text: one backslash before each
operator, and every other character as it was. -/
def singleEscape (c : Char) : List Char :=
  if isOperator c then ['\\', c] else [c]

theorem unescape_cons {c : Char} (hback : c ≠ '\\') (hquote : c ≠ '\'') (rest : List Char) :
    unescape (c :: rest) = (unescape rest).map (c :: ·) := by
  rw [unescape]
  · rw [if_neg (by simp [hback, hquote])]
  all_goals
    intros
    simp_all

theorem unescape_plain_append : ∀ {cs : List Char}, (∀ c ∈ cs, c ≠ '\\' ∧ c ≠ '\'') →
    ∀ rest, unescape (cs ++ rest) = (unescape rest).map (cs ++ ·)
  | [], _, rest => by simp
  | c :: cs, h, rest => by
      have hc := h c List.mem_cons_self
      rw [List.cons_append, unescape_cons hc.1 hc.2,
        unescape_plain_append (fun d hd => h d (List.mem_cons_of_mem c hd)) rest, Option.map_map]
      rfl

theorem unescape_escapeChar (c : Char) (rest : List Char) :
    unescape (escapeChar c ++ rest) = (unescape rest).map (singleEscape c ++ ·) := by
  refine escapeChar_cases (motive := fun c text =>
    unescape (text ++ rest) = (unescape rest).map (singleEscape c ++ ·)) ?backslash ?operator
      ?quote ?nul ?newline ?carriage ?substitute ?plain c
  case operator =>
    intro c hop
    have hback : c ≠ '\\' := by
      rintro rfl
      revert hop
      decide
    have hquote : c ≠ '\'' := by
      rintro rfl
      revert hop
      decide
    have hpair : unescape (['\\', '\\', c] ++ rest) = (unescape (c :: rest)).map ('\\' :: ·) :=
      rfl
    rw [hpair, unescape_cons hback hquote, Option.map_map, singleEscape, if_pos hop]
    rfl
  case plain =>
    intro c hback hop hplain
    have hquote : c ≠ '\'' := fun hc => hplain (hc ▸ List.mem_cons_self)
    rw [singleEscape, hop, if_neg Bool.false_ne_true]
    exact unescape_cons hback hquote rest
  all_goals rfl

theorem unescape_escapeChars (cs rest : List Char) :
    unescape (escapeChars cs ++ rest) = (unescape rest).map (cs.flatMap singleEscape ++ ·) := by
  induction cs with
  | nil => simp
  | cons c cs ih =>
    rw [escapeChars_cons, List.append_assoc, unescape_escapeChar, ih, Option.map_map,
      List.flatMap_cons]
    simp [Function.comp_def]

end Literal

namespace Phrase

/-- A phrase at the full-text layer: the term with one backslash before each
operator, between the anchors and the quotes. -/
theorem unescape_render (a : Anchoring) (term : String) :
    Literal.unescape (render a term).toList
      = some (['"'] ++ (opening a).toList ++ (trimChars term.toList).flatMap Literal.singleEscape
        ++ (closing a).toList ++ ['"']) := by
  have hopening : ∀ c ∈ ['"'] ++ (opening a).toList, c ≠ '\\' ∧ c ≠ '\'' := by
    cases a <;> simp [opening]
  have hclosing : ∀ c ∈ (closing a).toList ++ ['"'], c ≠ '\\' ∧ c ≠ '\'' := by
    cases a <;> simp [closing]
  have htext : (render a term).toList = (['"'] ++ (opening a).toList)
      ++ (Literal.escapeChars (trimChars term.toList) ++ (((closing a).toList ++ ['"']) ++ [])) := by
    simp [render]
  rw [htext, Literal.unescape_plain_append hopening, Literal.unescape_escapeChars,
    Literal.unescape_plain_append hclosing, Literal.unescape]
  simp

/-! ## 3. The full-text layer -/

theorem isMetachar_of_not_isOperator {c : Char} (hop : Literal.isOperator c = false)
    (hback : c ≠ '\\') : isMetachar c = false := by
  simp_all [Literal.isOperator, isMetachar]

theorem isMetachar_of_isOperator {c : Char} (hop : Literal.isOperator c = true) :
    isMetachar c = true := by
  simp_all [Literal.isOperator, isMetachar]

theorem tokens_cons {c : Char} (hback : c ≠ '\\') (rest : List Char) :
    tokens (c :: rest) = (if isMetachar c then .operator c else .literal c) :: tokens rest := by
  rw [tokens]
  intro d r hc
  exact absurd hc hback

/-- A character that is no backslash is read as itself, escaped or not. -/
theorem tokens_singleEscape_append {c : Char} (hback : c ≠ '\\') (rest : List Char) :
    tokens (Literal.singleEscape c ++ rest) = .literal c :: tokens rest := by
  rw [Literal.singleEscape]
  cases hop : Literal.isOperator c with
  | true => rw [if_pos rfl, List.cons_append, List.singleton_append, tokens]
  | false =>
    rw [if_neg Bool.false_ne_true, List.singleton_append, tokens_cons hback,
      isMetachar_of_not_isOperator hop hback, if_neg Bool.false_ne_true]

/-- Every character without a backslash among them is read as itself. -/
theorem tokens_singleEscape : ∀ {cs : List Char}, '\\' ∉ cs →
    tokens (cs.flatMap Literal.singleEscape) = cs.map .literal
  | [], _ => rfl
  | c :: cs, h => by
      obtain ⟨hback, hcs⟩ := not_or.1 (mt List.mem_cons.2 h)
      rw [List.flatMap_cons, tokens_singleEscape_append (Ne.symm hback), tokens_singleEscape hcs,
        List.map_cons]

/-- Where no operator is at work, each token is one character, and a backslash
is used up for the character behind it. -/
theorem length_of_tokens : ∀ {cs read : List Char},
    tokens (cs.flatMap Literal.singleEscape) = read.map .literal →
      read.length ≤ cs.length ∧ ('\\' ∈ cs → read.length < cs.length)
  | [], read, h => by
      have hread : read = [] := List.map_eq_nil_iff.1 h.symm
      simp [hread]
  | c :: rest, read, h => by
      by_cases hback : c = '\\'
      · subst hback
        rw [List.flatMap_cons, Literal.singleEscape, if_neg (by decide),
          List.singleton_append] at h
        cases rest with
        | nil => cases read <;> cases h
        | cons d rest =>
          rw [List.flatMap_cons, Literal.singleEscape] at h
          cases hop : Literal.isOperator d with
          | true =>
            -- The backslash takes the one that should escape `d`, so `d` is at work.
            have hd : d ≠ '\\' := by
              rintro rfl
              revert hop
              decide
            rw [hop, if_pos rfl, List.cons_append, List.singleton_append, tokens,
              tokens_cons hd, isMetachar_of_isOperator hop, if_pos rfl] at h
            cases read with
            | nil => cases h
            | cons e read => cases read <;> simp at h
          | false =>
            rw [hop, if_neg Bool.false_ne_true, List.singleton_append, tokens] at h
            cases read with
            | nil => cases h
            | cons e read =>
              rw [List.map_cons, List.cons.injEq] at h
              obtain ⟨hle, -⟩ := length_of_tokens h.2
              simp only [List.length_cons]
              omega
      · rw [List.flatMap_cons, tokens_singleEscape_append hback] at h
        cases read with
        | nil => cases h
        | cons e others =>
          obtain ⟨hle, hlt⟩ := length_of_tokens (List.cons.inj h).2
          refine ⟨Nat.succ_le_succ hle, fun hmem => Nat.succ_lt_succ (hlt ?_)⟩
          exact (List.mem_cons.1 hmem).resolve_left (Ne.symm hback)

/-- So a text with a backslash is not read as itself. -/
theorem not_mem_of_tokens {cs : List Char}
    (h : tokens (cs.flatMap Literal.singleEscape) = cs.map .literal) : '\\' ∉ cs := by
  intro hmem
  exact Nat.lt_irrefl _ ((length_of_tokens h).2 hmem)

/-! ## 4. Both layers -/

/-- **A phrase reads back exactly when its term has no backslash.** Every other
metacharacter of a term gets through both layers as a plain character. -/
theorem readsBack_iff (a : Anchoring) (term : String) :
    ReadsBack a term ↔ '\\' ∉ term.toList := by
  have htrim : '\\' ∈ trimChars term.toList ↔ '\\' ∈ term.toList :=
    ⟨fun h => trimChars_subset _ h, mem_trimChars (by decide)⟩
  rw [← htrim]
  constructor
  · rintro ⟨body, hdecoded, htokens⟩
    rw [unescape_render, Option.some.injEq, List.append_cancel_right_eq,
      List.append_cancel_right_eq, List.append_cancel_left_eq] at hdecoded
    subst hdecoded
    exact not_mem_of_tokens htokens
  · intro hback
    exact ⟨_, unescape_render a term, tokens_singleEscape hback⟩

/-- The phrase of a term that ends in a backslash: what closes it is taken. -/
theorem not_readsBack_backslash : ¬ ReadsBack .loose "a\\" := by
  rintro ⟨body, hdecoded, htokens⟩
  have hrender : Literal.unescape (render .loose "a\\").toList = some ['"', 'a', '\\', '"'] := by
    decide
  have hbody : body = ['a', '\\'] := by
    have hparts : ['"'] ++ ['a', '\\'] ++ ['"'] = ['"'] ++ body ++ ['"'] := by
      simpa [hrender, opening, closing] using hdecoded
    exact (List.append_cancel_left (List.append_cancel_right hparts)).symm
  subst hbody
  exact absurd htokens (by decide)

end Phrase

end SearchSql
