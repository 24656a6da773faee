/-
SearchSql.Options — grouping, order and paging of a SELECT.
-/
import SearchSql.Number.Layout
import SearchSql.Text.Ascii
import SearchSql.Text.Blank

namespace SearchSql

open SearchSql.Number SearchSql.Text

/-! ## 1. Direction -/

/-- The direction of an order. -/
inductive Direction
  | asc
  | desc
deriving DecidableEq, Repr

namespace Direction

def keyword : Direction → String
  | .asc => "ASC"
  | .desc => "DESC"

/-- Reads `asc` or `desc`, in any case and trimmed. -/
def parse? (s : String) : Option Direction :=
  [asc, desc].find? fun d => sameFolded (trimChars s.toList) d.keyword.toList

end Direction

/-! ## 2. Paging -/

/-- Which rows of a result are returned, and how many the daemon considers. -/
structure Paging where
  offset : UInt64
  limit : UInt64
  maxMatches : UInt64
deriving DecidableEq, Repr

/-- The first twenty rows of at most a thousand matches. -/
def Paging.standard : Paging := ⟨0, 20, 1000⟩

/-! ## 3. Options -/

/-- The options of a SELECT. -/
structure Options where
  groupBy : Option String
  orderBy : Option (String × Direction)
  paging : Paging
  /-- Whether a result of two columns becomes a mapping. -/
  pairs : Bool
deriving DecidableEq, Repr

namespace Options

/-- No grouping, no order, rows as they are. -/
def ofPaging (p : Paging) : Options :=
  ⟨none, none, p, false⟩

/-- The grouping and order that are set, each behind a space. -/
def renderOrder (o : Options) : String :=
  (match o.groupBy with
    | some column => " GROUP BY " ++ column
    | none => "")
  ++ match o.orderBy with
    | some (column, direction) => " ORDER BY " ++ column ++ " " ++ direction.keyword
    | none => ""

/-- The paging, behind a space. -/
def renderPaging (o : Options) : String :=
  " LIMIT " ++ natText o.paging.offset.toNat ++ ", " ++ natText o.paging.limit.toNat
    ++ " OPTION max_matches=" ++ natText o.paging.maxMatches.toNat

end Options

end SearchSql
