/-
SearchSql.Proofs.StringScan — a statement read for its string literals.

The daemon reads a statement from left to right. Outside of a string a single
quote opens one. Inside, a backslash takes the next character into the string
whatever it is, and a single quote that is not so taken closes the string.

* `scan` — the reading of a whole text: where it ends, the strings it met, and
  the characters outside of them.
* `Closed` — a text that may stand inside a string: it does not close it, and
  the reading is as far as before when it is through.
* `Holds` — a text that may stand in a statement: it opens and closes its
  strings, and outside of them it has no character that quotes or separates.

Both are kept by putting texts together, so a statement is read fragment by
fragment (`Holds.append`, `Holds.intercalate`).
-/
import SearchSql.Phrase

namespace SearchSql

open SearchSql.Number SearchSql.Text

/-! ## 1. The reading -/

/-- Where a reading is. Inside of a string it keeps what the string has so
far. -/
inductive ScanMode
  | outside
  | inside (body : List Char)
  /-- Behind a backslash inside of a string. -/
  | taking (body : List Char)
deriving DecidableEq

/-- How far a text has been read. -/
structure Scan where
  mode : ScanMode
  /-- The characters outside of strings, quotes not counted. -/
  plain : List Char
  /-- The strings that were closed, as they stand between their quotes. -/
  strings : List String
deriving DecidableEq

namespace Scan

def start : Scan := ⟨.outside, [], []⟩

/-- Reads one more character. -/
def next (s : Scan) (c : Char) : Scan :=
  match s.mode with
  | .outside =>
    if c = '\'' then { s with mode := .inside [] } else { s with plain := s.plain ++ [c] }
  | .inside body =>
    if c = '\\' then { s with mode := .taking (body ++ [c]) }
    else if c = '\'' then ⟨.outside, s.plain, s.strings ++ [String.ofList body]⟩
    else { s with mode := .inside (body ++ [c]) }
  | .taking body => { s with mode := .inside (body ++ [c]) }

/-- Reads on. -/
def read (s : Scan) (cs : List Char) : Scan :=
  cs.foldl next s

@[simp] theorem read_nil (s : Scan) : s.read [] = s := rfl

@[simp] theorem read_cons (s : Scan) (c : Char) (cs : List Char) :
    s.read (c :: cs) = (s.next c).read cs := rfl

theorem read_append (s : Scan) (cs ds : List Char) : s.read (cs ++ ds) = (s.read cs).read ds := by
  simp [read]

/-- No reading forgets a string that was closed. -/
theorem strings_prefix_read (s : Scan) (cs : List Char) : s.strings <+: (s.read cs).strings := by
  induction cs generalizing s with
  | nil => exact List.prefix_rfl
  | cons c cs ih =>
    have hnext : s.strings <+: (s.next c).strings := by
      rw [next]
      cases s.mode with
      | outside => dsimp only; split <;> exact List.prefix_rfl
      | inside body =>
        dsimp only
        split
        · exact List.prefix_rfl
        · split
          · exact List.prefix_append _ _
          · exact List.prefix_rfl
      | taking body => exact List.prefix_rfl
    exact hnext.trans (ih (s.next c))

end Scan

/-- A statement text read for its strings. -/
def scan (sql : String) : Scan :=
  Scan.start.read sql.toList

/-! ## 2. Texts inside of a string -/

/-- A text that leaves a string open and the reading inside of it. -/
def Closed (cs : List Char) : Prop :=
  ∀ body plain strings,
    Scan.read ⟨.inside body, plain, strings⟩ cs = ⟨.inside (body ++ cs), plain, strings⟩

namespace Closed

theorem nil : Closed [] := by
  intro body plain strings
  simp

theorem append {cs ds : List Char} (hc : Closed cs) (hd : Closed ds) : Closed (cs ++ ds) := by
  intro body plain strings
  rw [Scan.read_append, hc, hd, List.append_assoc]

/-- A character that neither quotes nor takes. -/
theorem singleton {c : Char} (hquote : c ≠ '\'') (hback : c ≠ '\\') : Closed [c] := by
  intro body plain strings
  simp [Scan.next, hquote, hback]

/-- A backslash and what it takes. -/
theorem taken (c : Char) : Closed ['\\', c] := by
  intro body plain strings
  simp [Scan.next]

theorem of_forall : ∀ {cs : List Char}, (∀ c ∈ cs, c ≠ '\'' ∧ c ≠ '\\') → Closed cs
  | [], _ => nil
  | c :: cs, h => by
      have hc := h c List.mem_cons_self
      exact (singleton hc.1 hc.2).append (of_forall fun d hd => h d (List.mem_cons_of_mem c hd))

theorem flatMap {f : α → List Char} {as : List α} (h : ∀ a ∈ as, Closed (f a)) :
    Closed (as.flatMap f) := by
  induction as with
  | nil => exact nil
  | cons a as ih =>
    rw [List.flatMap_cons]
    exact (h a List.mem_cons_self).append (ih fun b hb => h b (List.mem_cons_of_mem a hb))

/-- What comes of one character inside of quotes takes whole pairs. -/
theorem escapeChar (c : Char) : Closed (Literal.escapeChar c) := by
  refine Literal.escapeChar_cases (motive := fun _ text => Closed text) ?backslash ?operator ?quote
    ?nul ?newline ?carriage ?substitute ?plain c
  case backslash => exact taken '\\'
  case operator =>
    intro c hop
    refine (taken '\\').append (singleton ?_ ?_) <;> rintro rfl <;> revert hop <;> decide
  case quote => exact taken '\''
  case nul => exact (taken 'x').append (of_forall (by simp))
  case newline => exact taken 'n'
  case carriage => exact taken 'r'
  case substitute => exact (taken 'x').append (of_forall (by simp))
  case plain =>
    intro c hback _ hplain
    exact singleton (fun hc => hplain (hc ▸ List.mem_cons_self)) hback

/-- **An escaped text stays inside of its string.** -/
theorem escape (s : String) : Closed (Literal.escape s).toList := by
  rw [Literal.toList_escape, Literal.escapeChars]
  exact flatMap fun c _ => escapeChar c

theorem intercalate {separator : String} (hsep : Closed separator.toList) :
    ∀ {texts : List String}, (∀ text ∈ texts, Closed text.toList) →
      Closed (separator.intercalate texts).toList
  | [], _ => by simpa using nil
  | [text], h => by simpa using h
  | text :: other :: rest, h => by
      rw [String.intercalate_cons_cons, String.toList_append, String.toList_append]
      exact ((h text List.mem_cons_self).append hsep).append
        (intercalate hsep fun t ht => h t (List.mem_cons_of_mem text ht))

end Closed

/-! ## 3. Texts in a statement -/

/-- The characters that quote or separate: outside of strings a statement has
none of them. -/
def isSpecial (c : Char) : Bool :=
  c ∈ ['\'', '"', '\\', ';']

theorem isSpecial_eq_false_iff (c : Char) :
    isSpecial c = false ↔ c ≠ '\'' ∧ c ≠ '"' ∧ c ≠ '\\' ∧ c ≠ ';' := by
  simp [isSpecial]

/-- A text without characters that quote or separate. -/
def IsPlain (s : String) : Prop :=
  ∀ c ∈ s.toList, isSpecial c = false

instance (s : String) : Decidable (IsPlain s) :=
  decidable_of_iff (s.toList.all fun c => !isSpecial c) (by simp [IsPlain])

namespace IsPlain

theorem append {s t : String} (hs : IsPlain s) (ht : IsPlain t) : IsPlain (s ++ t) := by
  intro c hc
  rw [String.toList_append, List.mem_append] at hc
  exact hc.elim (hs c) (ht c)

theorem intercalate {separator : String} (hsep : IsPlain separator) :
    ∀ {texts : List String}, (∀ text ∈ texts, IsPlain text) → IsPlain (separator.intercalate texts)
  | [], _ => by simp [IsPlain]
  | [text], h => by simpa using h
  | text :: other :: rest, h => by
      have hrest := intercalate hsep fun t ht => h t (List.mem_cons_of_mem text ht)
      rw [String.intercalate_cons_cons]
      exact ((h text List.mem_cons_self).append hsep).append hrest

/-- Plain text may also stand inside of a string. -/
theorem closed {s : String} (h : IsPlain s) : Closed s.toList := by
  refine Closed.of_forall fun c hc => ?_
  have hplain := h c hc
  constructor <;> rintro rfl <;> exact absurd hplain (by decide)

end IsPlain

/-- A text that, read from outside of a string, ends outside, meets these
strings, and is plain around them. -/
def Holds (text : String) (strings : List String) : Prop :=
  ∃ around : List Char, (∀ c ∈ around, isSpecial c = false) ∧
    ∀ plain earlier, Scan.read ⟨.outside, plain, earlier⟩ text.toList
      = ⟨.outside, plain ++ around, earlier ++ strings⟩

namespace Holds

/-- Plain characters leave the reading outside. -/
theorem read_of_plain : ∀ {cs : List Char}, (∀ c ∈ cs, isSpecial c = false) →
    ∀ plain earlier, Scan.read ⟨.outside, plain, earlier⟩ cs = ⟨.outside, plain ++ cs, earlier⟩
  | [], _, plain, earlier => by simp
  | c :: cs, h, plain, earlier => by
      have hc : c ≠ '\'' := by
        rintro rfl
        exact absurd (h '\'' List.mem_cons_self) (by decide)
      rw [Scan.read_cons, Scan.next]
      simp only [if_neg hc]
      rw [read_of_plain fun d hd => h d (List.mem_cons_of_mem c hd)]
      simp

theorem of_isPlain {s : String} (h : IsPlain s) : Holds s [] :=
  ⟨s.toList, h, fun plain earlier => by rw [read_of_plain h, List.append_nil]⟩

theorem append {s t : String} {ss ts : List String} (hs : Holds s ss) (ht : Holds t ts) :
    Holds (s ++ t) (ss ++ ts) := by
  obtain ⟨around, hplain, hread⟩ := hs
  obtain ⟨around', hplain', hread'⟩ := ht
  refine ⟨around ++ around', ?_, fun plain earlier => ?_⟩
  · intro c hc
    exact (List.mem_append.1 hc).elim (hplain c) (hplain' c)
  · rw [String.toList_append, Scan.read_append, hread, hread', List.append_assoc,
      List.append_assoc]

/-- Plain text in front of a text that holds strings. -/
theorem plain_append {s t : String} {ts : List String} (hs : IsPlain s) (ht : Holds t ts) :
    Holds (s ++ t) ts :=
  (of_isPlain hs).append ht

/-- Plain text behind a text that holds strings. -/
theorem append_plain {s t : String} {ss : List String} (hs : Holds s ss) (ht : IsPlain t) :
    Holds (s ++ t) ss := by
  simpa using hs.append (of_isPlain ht)

/-- A closed text between quotes is one string. -/
theorem quoted {body : String} (h : Closed body.toList) : Holds ("'" ++ body ++ "'") [body] := by
  refine ⟨[], by simp, fun plain earlier => ?_⟩
  rw [String.toList_append, String.toList_append, Scan.read_append, Scan.read_append]
  have hopen : Scan.read ⟨.outside, plain, earlier⟩ "'".toList = ⟨.inside [], plain, earlier⟩ := rfl
  rw [hopen, h]
  simp [Scan.next]

theorem quote (s : String) : Holds (Literal.quote s) [Literal.escape s] :=
  quoted (Closed.escape s)

theorem intercalate {separator : String} (hsep : IsPlain separator) {f : α → String}
    {strings : α → List String} : ∀ {as : List α}, (∀ a ∈ as, Holds (f a) (strings a)) →
      Holds (separator.intercalate (as.map f)) (as.flatMap strings)
  | [], _ => by simpa using of_isPlain (s := "") (by simp [IsPlain])
  | [a], h => by simpa using h
  | a :: b :: rest, h => by
      have hrest := intercalate hsep fun c hc => h c (List.mem_cons_of_mem a hc)
      rw [List.map_cons, List.map_cons, String.intercalate_cons_cons, List.flatMap_cons]
      exact ((h a List.mem_cons_self).append_plain hsep).append hrest

/-- The reading of a whole text. -/
theorem scan_eq {text : String} {strings : List String} (h : Holds text strings) :
    (scan text).mode = .outside ∧ (scan text).strings = strings ∧
      ∀ c ∈ (scan text).plain, isSpecial c = false := by
  obtain ⟨around, hplain, hread⟩ := h
  have hscan : scan text = ⟨.outside, around, strings⟩ := by
    rw [scan, Scan.start, hread]
    simp
  rw [hscan]
  exact ⟨rfl, rfl, hplain⟩

end Holds

end SearchSql
