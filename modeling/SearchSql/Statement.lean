/-
SearchSql.Statement — compiled statements.

A statement is complete: its text, and the form in which its result is handed
out. Running it sends the text once.
-/
import SearchSql.Output
import SearchSql.Transport

namespace SearchSql

/-- A compiled statement. -/
structure Statement where
  kind : Kind
  index : String
  sql : String
  shape : Shape
deriving DecidableEq, Repr

namespace Statement

/-- Sends a statement once. A statement that changes the index answers with a
count, any other with rows. -/
def run (s : Statement) (t : Transport σ) (state : σ) : Exchange Error σ Output :=
  if s.kind.isMutation then
    (t.execute s.sql state).mapResult fun r => (Transport.tied s.sql r).map .affected
  else
    (t.query s.sql state).mapResult fun r =>
      (Transport.tied s.sql r).bind (Output.ofRows · s.shape)

end Statement

end SearchSql
