/-
SearchSql.Phrase — one term of a full-text query, as a phrase in double
quotes.

A phrase may be tied to the start of a field, or to both of its ends.
-/
import SearchSql.Literal

namespace SearchSql

open SearchSql.Text

/-- Where in a field a phrase has to stand. -/
inductive Anchoring
  /-- Anywhere. -/
  | loose
  /-- The phrase is the whole field. -/
  | exact
  /-- The field starts with the phrase. -/
  | starting
deriving DecidableEq, Repr

namespace Phrase

/-- What stands between the opening quote and the phrase. -/
def opening : Anchoring → String
  | .loose => ""
  | .exact | .starting => "^"

/-- What stands between the phrase and the closing quote. -/
def closing : Anchoring → String
  | .exact => "$"
  | .loose | .starting => ""

/-- A term as a phrase: trimmed, escaped, in double quotes. An empty term is an
empty phrase. -/
def render (a : Anchoring) (term : String) : String :=
  "\"" ++ opening a ++ Literal.escape (trim term) ++ closing a ++ "\""

end Phrase

end SearchSql
