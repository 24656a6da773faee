/-
SearchSql.Proofs.EscapeRoundTrip — an escaped text gives back what it was made
of.

Two backslashes are a backslash of the text or belong to an operator behind
them. Which of the two is seen from the character that follows, and there an
operator never stands on its own: an escaped text does not begin with one
(`Literal.isOperator_head_escapeChars`). So a reader that looks one character
ahead takes off the escapes of both layers at once.

* `Literal.decode` — the reader; an escape that is never written stops it.
* `Literal.decode_escapeChars` — it gives back every text.
* `Literal.escape_round_trip` — hence different texts, literals of texts and
  phrases of one anchoring are told apart, up to the white space at their ends.
-/
import SearchSql.Proofs.WrittenRows

namespace SearchSql

open SearchSql.Text

namespace Literal

/-! ## 1. The reader -/

/-- A text without the escapes of both layers. -/
def decode : List Char → Option (List Char)
  | [] => some []
  | ['\\', '\\'] => some ['\\']
  | '\\' :: '\\' :: c :: rest =>
    if isOperator c then (decode rest).map (c :: ·) else (decode (c :: rest)).map ('\\' :: ·)
  | '\\' :: '\'' :: rest => (decode rest).map ('\'' :: ·)
  | '\\' :: 'n' :: rest => (decode rest).map ('\n' :: ·)
  | '\\' :: 'r' :: rest => (decode rest).map ('\r' :: ·)
  | '\\' :: 'x' :: '0' :: '0' :: rest => (decode rest).map ('\x00' :: ·)
  | '\\' :: 'x' :: '1' :: 'a' :: rest => (decode rest).map ('\x1a' :: ·)
  | c :: rest => if c = '\\' then none else (decode rest).map (c :: ·)

theorem decode_cons {c : Char} (h : c ≠ '\\') (rest : List Char) :
    decode (c :: rest) = (decode rest).map (c :: ·) := by
  rw [decode]
  · rw [if_neg h]
  all_goals
    intros
    simp_all

/-- Two backslashes with no operator behind them. -/
theorem decode_backslash {rest : List Char} (h : ∀ d ∈ rest.head?, isOperator d = false) :
    decode ('\\' :: '\\' :: rest) = (decode rest).map ('\\' :: ·) := by
  cases rest with
  | nil => rfl
  | cons d rest =>
    rw [decode, if_neg (by simp [h d rfl])]

/-! ## 2. Escaped texts -/

/-- No character comes to a text that begins with an operator. -/
theorem isOperator_head_escapeChars (cs : List Char) :
    ∀ d ∈ (escapeChars cs).head?, isOperator d = false := by
  cases cs with
  | nil => simp
  | cons c cs =>
    rw [escapeChars_cons]
    refine escapeChar_cases (motive := fun _ text =>
      ∀ d ∈ (text ++ escapeChars cs).head?, isOperator d = false) ?backslash ?operator ?quote ?nul
        ?newline ?carriage ?substitute ?plain c
    case plain =>
      rintro c - hop -
      simpa using hop
    all_goals simp [isOperator]

/-- One character is read back where what follows does not begin with an
operator. -/
theorem decode_escapeChar (c : Char) {rest : List Char}
    (h : ∀ d ∈ rest.head?, isOperator d = false) :
    decode (escapeChar c ++ rest) = (decode rest).map (c :: ·) := by
  refine escapeChar_cases (motive := fun c text =>
    decode (text ++ rest) = (decode rest).map (c :: ·)) ?backslash ?operator ?quote ?nul
        ?newline ?carriage ?substitute ?plain c
  case backslash => exact decode_backslash h
  case operator =>
    intro c hop
    rw [List.cons_append, List.cons_append, List.singleton_append, decode, if_pos hop]
  case plain =>
    intro c hback _ _
    exact decode_cons hback rest
  all_goals rfl

/-- Every text is read back. -/
theorem decode_escapeChars : ∀ cs : List Char, decode (escapeChars cs) = some cs
  | [] => rfl
  | c :: cs => by
      rw [escapeChars_cons, decode_escapeChar c (isOperator_head_escapeChars cs),
        decode_escapeChars cs, Option.map_some]

theorem escape_injective : Function.Injective escape := by
  intro s t h
  have hdecoded : some s.toList = some t.toList := by
    rw [← decode_escapeChars s.toList, ← decode_escapeChars t.toList, ← toList_escape,
      ← toList_escape, h]
  exact String.toList_inj.1 (Option.some.inj hdecoded)

/-- The control characters that only the string layer knows are written with
visible characters. -/
theorem control_notMem_escapeChars {c : Char} (hc : c ∈ ['\x00', '\n', '\r', '\x1a'])
    (cs : List Char) : c ∉ escapeChars cs := by
  have hcases : c = '\x00' ∨ c = '\n' ∨ c = '\r' ∨ c = '\x1a' := by simpa using hc
  rw [escapeChars, List.mem_flatMap]
  rintro ⟨d, -, hd⟩
  revert hd
  refine escapeChar_cases (motive := fun _ text => c ∉ text) ?backslash ?operator ?quote ?nul
    ?newline ?carriage ?substitute ?plain d
  case operator =>
    intro d hop hd
    have hback : c ≠ '\\' := by rcases hcases with rfl | rfl | rfl | rfl <;> decide
    have hcd : c = d := by simpa [hback] using hd
    subst hcd
    rcases hcases with rfl | rfl | rfl | rfl <;> revert hop <;> decide
  case plain =>
    rintro d - - hplain hd
    rw [List.mem_singleton] at hd
    exact hplain (List.mem_cons_of_mem _ (hd ▸ hc))
  all_goals rcases hcases with rfl | rfl | rfl | rfl <;> decide

end Literal

/-! ## 3. Literals and phrases -/

/-- The literals of two texts are the same where the texts are, but for the
white space at their ends. -/
theorem Value.literal_text_eq_iff (s t : String) :
    (text s).literal = (text t).literal ↔ trim s = trim t := by
  constructor
  · intro h
    have hcontent : some (trim s) = some (trim t) := by
      rw [← content?_literal s, ← content?_literal t, h]
    exact Option.some.inj hcontent
  · intro h
    have hchars : trimChars s.toList = trimChars t.toList := by
      rw [← toList_trim, h, toList_trim]
    rw [literal, literal, Literal.ofText, Literal.ofText, hchars, h]

theorem Phrase.render_eq_iff (a : Anchoring) (s t : String) :
    render a s = render a t ↔ trim s = trim t := by
  constructor
  · intro h
    have hescaped : Literal.escape (trim s) = Literal.escape (trim t) := by
      simpa [render, ← String.toList_inj] using h
    exact Literal.escape_injective hescaped
  · intro h
    rw [render, render, h]

/-- **Escaping loses nothing.** Every text is read back from its escapes, which
have no control character; different texts have different escapes; and texts
have the same literal, and the same phrase of one anchoring, exactly when they
are the same without the white space at their ends. -/
theorem Literal.escape_round_trip :
    (∀ s : String, decode (escape s).toList = some s.toList ∧
      ∀ c ∈ ['\x00', '\n', '\r', '\x1a'], c ∉ (escape s).toList) ∧
    Function.Injective escape ∧
    (∀ s t : String, (Value.text s).literal = (Value.text t).literal ↔ trim s = trim t) ∧
    ∀ (a : Anchoring) (s t : String), Phrase.render a s = Phrase.render a t ↔ trim s = trim t := by
  refine ⟨fun s => ⟨?_, fun c hc => ?_⟩, escape_injective, Value.literal_text_eq_iff,
    Phrase.render_eq_iff⟩
  · rw [toList_escape, decode_escapeChars]
  · rw [toList_escape]
    exact control_notMem_escapeChars hc s.toList

/-- Backslashes next to operators and to letters that stand for control
characters; a number and the same digits between quotes. -/
theorem Literal.escape_round_trip_backslashes :
    (escape "\\(\\\\n\n'").toList = "\\\\\\\\(\\\\\\\\n\\n\\'".toList ∧
      decode "\\\\\\\\(\\\\\\\\n\\n\\'".toList = some "\\(\\\\n\n'".toList ∧
      '\n' ∉ (escape "\\(\\\\n\n'").toList ∧
      (Value.text " 7 ").literal = (Value.text "7").literal ∧
      (Value.text "'7'").literal ≠ (Value.text "7").literal ∧
      Phrase.render .exact "a\\" ≠ Phrase.render .exact "a" := by
  obtain ⟨hread, -, hliteral, hphrase⟩ := escape_round_trip
  have htext : (escape "\\(\\\\n\n'").toList
      = "\\\\\\\\(\\\\\\\\n\\n\\'".toList := by decide
  exact ⟨htext, htext ▸ (hread _).1, (hread _).2 '\n' (by decide), (hliteral _ _).2 (by decide),
    mt (hliteral _ _).1 (by decide), mt (hphrase _ _ _).1 (by decide)⟩

end SearchSql
