/-
SearchSql.Kind — the four kinds of statement and their keywords.
-/
import SearchSql.Text.Ascii
import SearchSql.Text.Blank

namespace SearchSql

open SearchSql.Text

/-- The kinds of statement the library assembles. -/
inductive Kind
  | select
  | insert
  | replace
  | delete
deriving DecidableEq, Repr

namespace Kind

/-- The word a statement of the kind begins with. -/
def keyword : Kind → String
  | .select => "SELECT"
  | .insert => "INSERT"
  | .replace => "REPLACE"
  | .delete => "DELETE"

/-- Every kind but `select` changes the index and answers with a count in
place of rows. -/
def isMutation (k : Kind) : Bool :=
  k != .select

/-- All kinds. -/
def all : List Kind := [.select, .insert, .replace, .delete]

/-- The kind of a statement text by its first word, in any case. The word ends
at the first character that is no letter of ASCII. -/
def ofText? (sql : String) : Option Kind :=
  let word := (trimStartChars sql.toList).takeWhile isLetter
  all.find? fun k => sameFolded word k.keyword.toList

end Kind

end SearchSql
