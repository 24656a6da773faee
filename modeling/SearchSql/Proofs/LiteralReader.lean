/-
SearchSql.Proofs.LiteralReader — literals read off the start of a text.

A literal in a statement is a string in single quotes, in which a backslash
takes the next character along, or a run of characters up to a space, a comma
or a closing parenthesis. So commas and parentheses separate only where no
string is open.

* `readLiteral` — one literal and what is left of the text.
* `separated` — one thing after another, for as long as a separator follows.
* `readList` — literals in parentheses with commas between them.

Each reader is stated with an arbitrary rest behind what it reads, so that a
text is read piece by piece (`Value.readLiteral_literal`,
`separated_intercalate`, `Value.readList_literals`).
-/
import SearchSql.Proofs.BoundValues

namespace SearchSql

open SearchSql.Text

/-! ## 1. One literal -/

/-- The characters that end a literal outside of quotes. -/
def isDelimiter (c : Char) : Bool :=
  c ∈ [' ', ',', ')']

/-- A text that does not go on with a literal. -/
def Delimited (rest : List Char) : Prop :=
  ∀ c ∈ rest.head?, isDelimiter c = true

theorem delimited_cons {c : Char} (h : isDelimiter c = true) (rest : List Char) :
    Delimited (c :: rest) := by
  intro d hd
  cases hd
  exact h

/-- What is left of a string behind its opening quote, with the closing quote. -/
def readString : List Char → Option (List Char × List Char)
  | [] => none
  | '\\' :: c :: rest =>
    (readString rest).map fun (body, behind) => ('\\' :: c :: body, behind)
  | c :: rest =>
    if c = '\'' then some ([c], rest)
    else (readString rest).map fun (body, behind) => (c :: body, behind)

/-- A literal and what follows it. -/
def readLiteral : List Char → Option (String × List Char)
  | '\'' :: rest =>
    (readString rest).map fun (body, behind) => (String.ofList ('\'' :: body), behind)
  | cs =>
    some (String.ofList (cs.takeWhile (!isDelimiter ·)), cs.dropWhile (!isDelimiter ·))

theorem readString_cons {c : Char} (hquote : c ≠ '\'') (hback : c ≠ '\\') (rest : List Char) :
    readString (c :: rest)
      = (readString rest).map fun (body, behind) => (c :: body, behind) := by
  rw [readString]
  · rw [if_neg hquote]
  · intro d rest' hc
    exact absurd hc hback

/-- A text that stays inside of its string is read up to the quote behind it. -/
theorem readString_of_read : ∀ (cs body : List Char),
    Scan.read ⟨.inside body, [], []⟩ cs = ⟨.inside (body ++ cs), [], []⟩ →
    ∀ rest, readString (cs ++ '\'' :: rest) = some (cs ++ ['\''], rest)
  | [], _, _, rest => by
      rw [List.nil_append, readString]
      · rfl
      · intro d rest' hc
        cases hc
  | c :: cs, body, h, rest => by
      by_cases hback : c = '\\'
      · subst hback
        cases cs with
        | nil => simp [Scan.next] at h
        | cons d cs =>
          have hrest := readString_of_read cs (body ++ ['\\'] ++ [d])
            (by simpa [Scan.next] using h) rest
          rw [List.cons_append, List.cons_append, readString, hrest]
          rfl
      · by_cases hquote : c = '\''
        · -- The string would be closed, and no later character takes that back.
          subst hquote
          have hclosed := Scan.strings_prefix_read ⟨.outside, [], [String.ofList body]⟩ cs
          have hread : Scan.read ⟨.outside, [], [String.ofList body]⟩ cs
              = ⟨.inside (body ++ '\'' :: cs), [], []⟩ := by
            simpa [Scan.next] using h
          rw [hread] at hclosed
          simp at hclosed
        · have hrest := readString_of_read cs (body ++ [c])
            (by simpa [Scan.next, hback, hquote] using h) rest
          rw [List.cons_append, readString_cons hquote hback, hrest]
          rfl

/-- A closed text between quotes is one literal, whatever follows. -/
theorem readLiteral_quoted {body : String} (h : Closed body.toList) (rest : List Char) :
    readLiteral (("'" ++ body ++ "'").toList ++ rest) = some ("'" ++ body ++ "'", rest) := by
  have htext : ("'" ++ body ++ "'").toList ++ rest = '\'' :: (body.toList ++ '\'' :: rest) := by
    simp
  have hliteral : String.ofList ('\'' :: (body.toList ++ ['\''])) = "'" ++ body ++ "'" := by
    simp [← String.toList_inj]
  rw [htext, readLiteral, readString_of_read _ [] (h [] [] []), Option.map_some]
  simp only [hliteral]

/-- A run of other characters is one literal where a delimiter follows. -/
theorem readLiteral_run {cs rest : List Char}
    (hcs : ∀ c ∈ cs, c ≠ '\'' ∧ isDelimiter c = false) (hrest : Delimited rest) :
    readLiteral (cs ++ rest) = some (String.ofList cs, rest) := by
  have hread : readLiteral (cs ++ rest) = some
      (String.ofList ((cs ++ rest).takeWhile (!isDelimiter ·)),
        (cs ++ rest).dropWhile (!isDelimiter ·)) := by
    rw [readLiteral]
    rintro rest' hquote
    cases cs with
    | nil =>
      rw [List.nil_append] at hquote
      exact absurd (hrest '\'' (by simp [hquote])) (by decide)
    | cons c cs => exact absurd (List.cons.inj hquote).1 (hcs c List.mem_cons_self).1
  have hrun : ∀ c ∈ cs, (!isDelimiter c) = true := fun c hc => by simp [(hcs c hc).2]
  rw [hread, List.takeWhile_append_of_pos hrun, List.dropWhile_append_of_pos hrun]
  cases rest with
  | nil => simp
  | cons d rest => simp [hrest d (by simp)]

theorem isDelimiter_of_isNumeralChar {c : Char} (h : isNumeralChar c = true) :
    c ≠ '\'' ∧ isDelimiter c = false := by
  constructor
  · rintro rfl
    exact absurd h (by decide)
  · rw [isDelimiter, decide_eq_false_iff_not]
    intro hc
    simp only [List.mem_cons, List.not_mem_nil, or_false] at hc
    rcases hc with rfl | rfl | rfl <;> exact absurd h (by decide)

/-- **A literal is read as a whole**, up to what follows it. -/
theorem Value.readLiteral_literal (v : Value) {rest : List Char} (h : Delimited rest) :
    readLiteral (v.literal.toList ++ rest) = some (v.literal, rest) := by
  rcases v.literal_eq with ⟨s, -, hs⟩ | ⟨-, hnull | hnumeral⟩
  · rw [hs]
    exact readLiteral_quoted (Closed.escape s) rest
  · rw [hnull]
    exact readLiteral_run (by simp [isDelimiter]) h
  · rw [readLiteral_run (fun c hc => isDelimiter_of_isNumeralChar (hnumeral c hc)) h,
      String.ofList_toList]

/-! ## 2. Things with a separator between them -/

/-- One thing after another, for as long as the separator follows, and what is
left behind the last. -/
def separated (one : List Char → Option (α × List Char)) (separator cs : List Char) :
    Option (List α × List Char) :=
  match one cs with
  | none => none
  | some (a, rest) =>
    match after? separator rest with
    | none => some ([a], rest)
    | some more =>
      if more.length < cs.length then
        (separated one separator more).map fun (as, rest) => (a :: as, rest)
      else none
termination_by cs.length

/-- Texts that are read one by one are read together, each up to the separator
and the last one up to a rest that does not begin with it. -/
theorem separated_intercalate {one : List Char → Option (α × List Char)} {separator : List Char}
    {Follows : List Char → Prop} {text : β → List Char} {view : β → α}
    (hseparator : separator ≠ []) (hfollows : ∀ more, Follows (separator ++ more)) :
    ∀ {bs : List β}, bs ≠ [] →
      (∀ b ∈ bs, ∀ rest, Follows rest → one (text b ++ rest) = some (view b, rest)) →
      ∀ {rest}, Follows rest → after? separator rest = none →
        separated one separator (separator.intercalate (bs.map text) ++ rest)
          = some (bs.map view, rest)
  | [b], _, hone, rest, hrest, hend => by
      rw [List.map_singleton, List.intercalate_singleton, separated,
        hone b List.mem_cons_self rest hrest]
      simp only [hend, List.map_singleton]
  | b :: c :: bs, _, hone, rest, hrest, hend => by
      have ih := separated_intercalate hseparator hfollows (List.cons_ne_nil c bs)
        (fun d hd => hone d (List.mem_cons_of_mem b hd)) hrest hend
      have hlength : 0 < separator.length := List.length_pos_iff.2 hseparator
      rw [List.map_cons, List.map_cons, List.intercalate_cons_cons, ← List.map_cons,
        List.append_assoc, List.append_assoc, separated,
        hone b List.mem_cons_self _ (hfollows _)]
      simp only [(after?_eq_some_iff _ _ _).2 rfl]
      rw [if_pos (by simp only [List.length_append]; omega), ih]
      rfl

/-! ## 3. Lists of literals -/

/-- Literals in parentheses with commas between them, and what follows. -/
def readList : List Char → Option (List String × List Char)
  | '(' :: cs =>
    match separated readLiteral [',', ' '] cs with
    | some (literals, ')' :: rest) => some (literals, rest)
    | _ => none
  | _ => none

theorem Value.readList_literals {vs : List Value} (h : vs ≠ []) (rest : List Char) :
    readList (("(" ++ literals vs ++ ")").toList ++ rest) = some (vs.map literal, rest) := by
  have htext : ("(" ++ literals vs ++ ")").toList ++ rest
      = '(' :: ([',', ' '].intercalate (vs.map fun v => v.literal.toList) ++ ')' :: rest) := by
    simp [literals, String.toList_intercalate, Function.comp_def]
  have hread : separated readLiteral [',', ' ']
      ([',', ' '].intercalate (vs.map fun v => v.literal.toList) ++ ')' :: rest)
        = some (vs.map literal, ')' :: rest) :=
    separated_intercalate (List.cons_ne_nil _ _)
      (fun more => delimited_cons (by decide) (' ' :: more)) h
      (fun v _ rest hrest => v.readLiteral_literal hrest)
      (delimited_cons (by decide) rest) (by simp [after?])
  rw [htext, readList, hread]
  rfl

end SearchSql
