/-
SearchSql.Literal — values as literals of a statement.

Two layers of quoting meet in a statement: string literals in single quotes
and, inside the argument of `MATCH`, the full-text query. The string layer
takes one backslash off, so the operators of the full-text layer get two of
them; the single quote and the control characters, which only the string
layer knows, get one.

* `Literal.escape` — a text with both layers' special characters escaped.
* `Literal.isNumeric` — the texts that stand in a statement as numbers.
* `Value.literal` — a value as a literal.
-/
import SearchSql.Value

namespace SearchSql

open SearchSql.Number SearchSql.Text

namespace Literal

/-! ## 1. Escaping -/

/-- The operators of the full-text layer. -/
def isOperator (c : Char) : Bool :=
  c ∈ ['(', ')', '|', '-', '!', '@', '~', '"', '&', '/', '^', '$', '=']

/-- One character inside single quotes. -/
def escapeChar (c : Char) : List Char :=
  if c = '\\' then ['\\', '\\']
  else if isOperator c then ['\\', '\\', c]
  else if c = '\'' then ['\\', '\'']
  else if c = '\x00' then ['\\', 'x', '0', '0']
  else if c = '\n' then ['\\', 'n']
  else if c = '\r' then ['\\', 'r']
  else if c = '\x1a' then ['\\', 'x', '1', 'a']
  else [c]

def escapeChars (cs : List Char) : List Char :=
  cs.flatMap escapeChar

/-- A text as it stands inside single quotes. -/
def escape (s : String) : String :=
  String.ofList (escapeChars s.toList)

/-- A text escaped and in single quotes. -/
def quote (s : String) : String :=
  "'" ++ escape s ++ "'"

@[simp] theorem toList_escape (s : String) : (escape s).toList = escapeChars s.toList := by
  simp [escape]

@[simp] theorem escapeChars_nil : escapeChars [] = [] := rfl

@[simp] theorem escapeChars_cons (c : Char) (cs : List Char) :
    escapeChars (c :: cs) = escapeChar c ++ escapeChars cs := rfl

/-- What one character comes to, case by case. -/
theorem escapeChar_cases {motive : Char → List Char → Prop}
    (backslash : motive '\\' ['\\', '\\'])
    (operator : ∀ c, isOperator c = true → motive c ['\\', '\\', c])
    (quote : motive '\'' ['\\', '\''])
    (nul : motive '\x00' ['\\', 'x', '0', '0'])
    (newline : motive '\n' ['\\', 'n'])
    (carriage : motive '\r' ['\\', 'r'])
    (substitute : motive '\x1a' ['\\', 'x', '1', 'a'])
    (plain : ∀ c, c ≠ '\\' → isOperator c = false → c ∉ ['\'', '\x00', '\n', '\r', '\x1a'] →
      motive c [c])
    (c : Char) : motive c (escapeChar c) := by
  by_cases hback : c = '\\'
  · subst hback
    exact backslash
  by_cases hop : isOperator c = true
  · rw [escapeChar, if_neg hback, if_pos hop]
    exact operator c hop
  by_cases hquote : c = '\''
  · subst hquote
    exact quote
  by_cases hnul : c = '\x00'
  · subst hnul
    exact nul
  by_cases hline : c = '\n'
  · subst hline
    exact newline
  by_cases hreturn : c = '\r'
  · subst hreturn
    exact carriage
  by_cases hsub : c = '\x1a'
  · subst hsub
    exact substitute
  · rw [escapeChar, if_neg hback, if_neg hop, if_neg hquote, if_neg hnul, if_neg hline,
      if_neg hreturn, if_neg hsub]
    exact plain c hback (by simpa using hop) (by simp [hquote, hnul, hline, hreturn, hsub])

/-! ## 2. Numbers in statements -/

/-- How far a text has been read as a number. -/
inductive Reading
  /-- Nothing read. -/
  | start
  /-- A sign. -/
  | sign
  /-- Digits. -/
  | whole
  /-- A point with no digit before it. -/
  | bare
  /-- A point behind digits, or digits behind a point. -/
  | fraction
  /-- The letter `e`. -/
  | mark
  /-- The letter `e` and a sign. -/
  | markSign
  /-- Digits of a power of ten. -/
  | power
  /-- No number. -/
  | refused
deriving DecidableEq

/-- Reads one more character of a number. -/
def Reading.next (r : Reading) (c : Char) : Reading :=
  if isDigit c then
    match r with
    | .start | .sign | .whole => .whole
    | .bare | .fraction => .fraction
    | .mark | .markSign | .power => .power
    | .refused => .refused
  else if c = '.' then
    match r with
    | .start | .sign => .bare
    | .whole => .fraction
    | _ => .refused
  else if c = 'e' ∨ c = 'E' then
    match r with
    | .whole | .fraction => .mark
    | _ => .refused
  else if c = '+' ∨ c = '-' then
    match r with
    | .start => .sign
    | .mark => .markSign
    | _ => .refused
  else .refused

/-- Whether what was read is a complete number. -/
def Reading.isComplete : Reading → Bool
  | .whole | .fraction | .power => true
  | _ => false

/-- Whether a text is a decimal number that the daemon reads without quotes: a
sign, if any, digits with at most one point, and a power of ten, if any. -/
def isNumeric (cs : List Char) : Bool :=
  (cs.foldl Reading.next .start).isComplete

/-- A trimmed text as a literal: a number as it is, anything else quoted. -/
def ofText (s : String) : String :=
  if isNumeric (trimChars s.toList) then trim s else quote (trim s)

end Literal

/-! ## 3. Values -/

/-- A value as a literal. Null and finite numbers are written plainly, and a
double that is not finite is quoted like a text. -/
def Value.literal : Value → String
  | .null => "NULL"
  | .int n => intText n.toInt
  | .float x => if x.isFinite then Number.display.text x else Literal.quote (Number.display.text x)
  | .text s => Literal.ofText s

/-- Literals with commas between them. -/
def Value.literals (vs : List Value) : String :=
  String.intercalate ", " (vs.map Value.literal)

end SearchSql
