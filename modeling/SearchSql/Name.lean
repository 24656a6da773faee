/-
SearchSql.Name — the names that stand unquoted in a statement.

Field names are never quoted. They are cleaned down to letters, the low line,
commas, parentheses and the at sign, so that a full-text field expression such
as `@(title,body)` survives. Index names are checked instead: a statement
addresses one index or a list of them with commas between.
-/
import SearchSql.Error
import SearchSql.Text.Ascii
import SearchSql.Text.Blank

namespace SearchSql.Name

open SearchSql.Text

/-! ## 1. Fields -/

/-- The characters that may stand in a field expression. -/
def isFieldChar (c : Char) : Bool :=
  isLetter c || c ∈ ['_', ',', '@', '(', ')']

/-- A field name without the characters that may not stand in it. A name with
nothing left is refused. -/
def field (s : String) : Except Error String :=
  let kept := s.toList.filter isFieldChar
  if kept.isEmpty then .error (.invalidField s) else .ok (String.ofList kept)

/-- Field names cleaned one by one; the first refusal counts. -/
def fields : List String → Except Error (List String)
  | [] => .ok []
  | s :: rest => do
    let name ← field s
    let names ← fields rest
    .ok (name :: names)

/-! ## 2. Indexes -/

/-- Whether a text is one index name: letters, digits and low lines, at least
one, with white space around them. -/
def isIndexName (cs : List Char) : Bool :=
  let name := trimChars cs
  !name.isEmpty && name.all isWordChar

/-- Whether a text is a list of index names with commas between them. -/
def isIndexList (cs : List Char) : Bool :=
  let (first, others) := pieces ',' cs
  isIndexName first && others.all isIndexName

/-- A list of index names, trimmed. White space alone names no index. -/
def index (s : String) : Except Error String :=
  let cs := trimChars s.toList
  if cs.isEmpty then .error .emptyIndex
  else if isIndexList cs then .ok (String.ofList cs)
  else .error (.invalidIndex s)

end SearchSql.Name
