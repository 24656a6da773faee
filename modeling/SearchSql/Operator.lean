/-
SearchSql.Operator — the operators of a filter.
-/

namespace SearchSql

/-- The operators that compare a column with a value, and membership in a
list. -/
inductive Operator
  | eq
  | ne
  | gt
  | lt
  | gte
  | lte
  | isIn
deriving DecidableEq, Repr

/-- The operator as it is written. -/
def Operator.symbol : Operator → String
  | .eq => "="
  | .ne => "!="
  | .gt => ">"
  | .lt => "<"
  | .gte => ">="
  | .lte => "<="
  | .isIn => "IN"

end SearchSql
