/-
SearchSql.Condition — the predicates of a statement, and the text that
follows `WHERE`.

Predicates are kept in the order of their declaration. The full-text searches
together are the argument of one `MATCH`, which comes first; the filters
follow it.
-/
import SearchSql.Predicate

namespace SearchSql

/-- The predicates of a statement, in order. -/
structure Condition where
  predicates : List Predicate
deriving DecidableEq

namespace Condition

/-- No predicate. -/
def empty : Condition := ⟨[]⟩

instance : Inhabited Condition := ⟨empty⟩

def isEmpty (c : Condition) : Bool :=
  c.predicates.isEmpty

def size (c : Condition) : Nat :=
  c.predicates.length

/-- A condition with one more predicate at its end. -/
def add (c : Condition) (p : Predicate) : Condition :=
  ⟨c.predicates ++ [p]⟩

@[simp] theorem size_add (c : Condition) (p : Predicate) : (c.add p).size = c.size + 1 := by
  simp [add, size]

@[simp] theorem isEmpty_add (c : Condition) (p : Predicate) : (c.add p).isEmpty = false := by
  simp [add, isEmpty]

/-- A text with one more fragment behind it, and a separator between the two
unless the fragment is the first. -/
def append (separator text fragment : String) : String :=
  if text.isEmpty then fragment else text ++ separator ++ fragment

/-- The texts gathered for the filters and for the searches, with the text of
one more predicate. -/
def gather (texts : String × String) (p : Predicate) : String × String :=
  if p.isFullText then (texts.1, append " " texts.2 p.render)
  else (append " AND " texts.1 p.render, texts.2)

/-- The text of the filters and the text of the `MATCH`. Either may be
empty. -/
def parts (c : Condition) : String × String :=
  let (filters, searches) := c.predicates.foldl gather ("", "")
  (filters, if searches.isEmpty then "" else "MATCH('" ++ searches ++ "')")

/-- The text of the condition. -/
def render (c : Condition) : String :=
  let (filters, fullText) := c.parts
  if fullText.isEmpty then filters
  else if filters.isEmpty then fullText
  else fullText ++ " AND " ++ filters

end Condition

end SearchSql
