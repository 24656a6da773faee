/-
SearchSql.Fields — what a statement projects or writes.

A declaration is one expression, which is taken as it is, or a list of
columns. A text declares a list when it has a comma outside of parentheses.
-/
import SearchSql.Text.Ascii
import SearchSql.Text.Blank

namespace SearchSql

open SearchSql.Text

/-- The declared fields of a statement. -/
inductive Fields
  /-- One expression, or `*` for everything. -/
  | expression (text : String)
  /-- Columns or expressions, in order. -/
  | columns (names : List String)
deriving DecidableEq, Repr

/-! ## 1. Reading a declaration -/

/-- The parts of a text between its commas, commas inside parentheses not
counted; `depth` parentheses are open before it. A closing parenthesis without
an opening one changes nothing. There is one part more than there are
commas. -/
def Fields.split : (depth : Nat) → List Char → List Char × List (List Char)
  | _, [] => ([], [])
  | depth, c :: rest =>
    if c = ',' ∧ depth = 0 then
      let (first, others) := split depth rest
      ([], first :: others)
    else
      let inside := if c = '(' then depth + 1 else if c = ')' then depth - 1 else depth
      let (first, others) := split inside rest
      (c :: first, others)

namespace Fields

/-- No field. -/
def empty : Fields := .columns []

instance : Inhabited Fields := ⟨empty⟩

/-- Reads a declaration: a list where there is a comma outside of parentheses,
and one expression otherwise. All parts are trimmed. -/
def parse (s : String) : Fields :=
  let (first, others) := split 0 (trimChars s.toList)
  if others.isEmpty then .expression (trim s)
  else .columns ((first :: others).map fun part => String.ofList (trimChars part))

/-- A list of columns, each of them trimmed. -/
def ofColumns (names : List String) : Fields :=
  .columns (names.map trim)

/-! ## 2. Questions about a declaration -/

/-- Whether nothing is declared, or a declared column is blank. -/
def isEmpty : Fields → Bool
  | .expression text => isBlankText text
  | .columns names => names.isEmpty || names.any isBlankText

/-- The declared names in order; an expression is one name. -/
def names : Fields → List String
  | .expression text => [text]
  | .columns names => names

/-- How many names are declared. -/
def arity (f : Fields) : Nat :=
  f.names.length

/-- The declaration as it stands in a statement. -/
def render (f : Fields) : String :=
  String.intercalate ", " f.names

/-! ## 3. Names in result rows -/

/-- What follows the last ` as ` of a text, in any case. -/
def afterAlias? : List Char → Option (List Char)
  | [] => none
  | c :: rest =>
    match afterAlias? rest with
    | some name => some name
    | none =>
      if sameFolded ((c :: rest).take 4) [' ', 'a', 's', ' '] then some (rest.drop 3)
      else none

/-- The name that an expression has in result rows: its alias if it has one,
and otherwise the expression itself. -/
def outputName (expression : String) : String :=
  match afterAlias? (trimChars expression.toList) with
  | some name => String.ofList (trimChars name)
  | none => trim expression

end Fields

end SearchSql
