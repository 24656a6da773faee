/-
SearchSql.Proofs.FilterClauses — the filters of a condition are told apart.

The text of the filters is a list of clauses with ` AND ` between them. The
same word also stands inside of a range, and it may stand in a text or be the
name of a column, so clauses are told apart from left to right: the column goes
up to the first space, the words behind it say which values follow, and behind
the last value the next clause begins or the text ends.

* `Clause` — what the text of a filter shows: column, relation and literals.
* `Clause.read?`, `Clause.readAll?` — one clause, and all of them.
* `Condition.clauses_of_filters` — the filters of a condition are read back, so
  equal texts are of equal clauses.
-/
import SearchSql.Proofs.LiteralReader

namespace SearchSql

open SearchSql.Text

/-! ## 1. Clauses -/

/-- How a column is related to the values of a filter. -/
inductive Relation
  | compared (op : Operator)
  | between
  | oneOf
  | noneOf
deriving DecidableEq

/-- The words between a column and the values. -/
def Relation.words : Relation → String
  | .compared op => op.symbol
  | .between => "BETWEEN"
  | .oneOf => "IN"
  | .noneOf => "NOT IN"

/-- The relations that clauses have. Membership is no comparison. -/
def Relation.all : List Relation :=
  [.compared .eq, .compared .ne, .compared .gt, .compared .lt, .compared .gte, .compared .lte,
    .between, .oneOf, .noneOf]

/-- What the text of a filter shows. -/
structure Clause where
  field : String
  relation : Relation
  literals : List String
deriving DecidableEq

/-- The literals of a clause as they stand behind the words of its relation. -/
def Relation.spread : Relation → List String → String
  | .compared _, literals | .between, literals => " AND ".intercalate literals
  | .oneOf, literals | .noneOf, literals => "(" ++ ", ".intercalate literals ++ ")"

def Clause.render (k : Clause) : String :=
  k.field ++ " " ++ k.relation.words ++ " " ++ k.relation.spread k.literals

/-- A filter as a clause; a full-text search is none. -/
def Predicate.clause? : Predicate → Option Clause
  | .comparison field op value => some ⟨field, .compared op, [value.literal]⟩
  | .between field low high => some ⟨field, .between, [low.literal, high.literal]⟩
  | .membership field values negated =>
    some ⟨field, if negated then .noneOf else .oneOf, values.map Value.literal⟩
  | .fullText .. => none

theorem Predicate.isFullText_eq (p : Predicate) : p.isFullText = p.clause?.isNone := by
  cases p <;> rfl

theorem Predicate.render_of_clause? {p : Predicate} {k : Clause} (h : p.clause? = some k) :
    p.render = k.render := by
  cases p with
  | fullText => cases h
  | comparison field op value =>
    cases h
    simp [render, Clause.render, Relation.words, Relation.spread]
  | between field low high =>
    cases h
    simp [render, Clause.render, Relation.words, Relation.spread, ← String.toList_inj]
  | membership field values negated =>
    cases h
    cases negated <;>
      simp [render, Clause.render, Relation.words, Relation.spread, Value.literals,
        ← String.toList_inj]

namespace Condition

/-- The clauses of the filters, in order. -/
def filterClauses (c : Condition) : List Clause :=
  c.predicates.filterMap Predicate.clause?

theorem map_render_filters (c : Condition) :
    c.filters.map Predicate.render = c.filterClauses.map Clause.render := by
  rw [filters, filterClauses]
  induction c.predicates with
  | nil => rfl
  | cons p ps ih =>
    have hkind := p.isFullText_eq
    cases hp : p.clause? with
    | none =>
      rw [List.filter_cons_of_neg (by simp [hkind, hp]), List.filterMap_cons_none hp, ih]
    | some k =>
      rw [List.filter_cons_of_pos (by simp [hkind, hp]), List.filterMap_cons_some hp,
        List.map_cons, List.map_cons, Predicate.render_of_clause? hp, ih]

end Condition

/-! ## 2. Reading -/

namespace Clause

/-- The relation behind a column, with the spaces around its words. -/
def readRelation (cs : List Char) : Option (Relation × List Char) :=
  Relation.all.findSome? fun r =>
    (after? (" " ++ r.words ++ " ").toList cs).map fun rest => (r, rest)

/-- The literals that follow a relation. -/
def readLiterals : Relation → List Char → Option (List String × List Char)
  | .compared _, cs => do
    let (literal, rest) ← readLiteral cs
    some ([literal], rest)
  | .between, cs => do
    let (low, rest) ← readLiteral cs
    let rest ← after? " AND ".toList rest
    let (high, rest) ← readLiteral rest
    some ([low, high], rest)
  | .oneOf, cs | .noneOf, cs => readList cs

/-- One clause and what follows it. -/
def read? (cs : List Char) : Option (Clause × List Char) := do
  let (relation, rest) ← readRelation (cs.dropWhile (· != ' '))
  let (literals, rest) ← readLiterals relation rest
  some (⟨String.ofList (cs.takeWhile (· != ' ')), relation, literals⟩, rest)

/-- All clauses of a text. -/
def readAll? (text : String) : Option (List Clause) :=
  if text.isEmpty then some []
  else
    match separated read? " AND ".toList text.toList with
    | some (clauses, []) => some clauses
    | _ => none

theorem readRelation_words {r : Relation} (h : r ∈ Relation.all) (cs : List Char) :
    readRelation ((" " ++ r.words ++ " ").toList ++ cs) = some (r, cs) := by
  simp only [Relation.all, List.mem_cons, List.not_mem_nil, or_false] at h
  rcases h with rfl | rfl | rfl | rfl | rfl | rfl | rfl | rfl | rfl <;> rfl

/-- A column and a relation in front of literals that can be read. -/
theorem read?_of_readLiterals {field : String} {r : Relation} {cs rest : List Char}
    {literals : List String} (hfield : Name.IsField field) (hr : r ∈ Relation.all)
    (h : readLiterals r cs = some (literals, rest)) :
    read? (field.toList ++ ((" " ++ r.words ++ " ").toList ++ cs))
      = some (⟨field, r, literals⟩, rest) := by
  have hspace : ∀ c ∈ field.toList, (c != ' ') = true := by
    intro c hc
    rw [bne_iff_ne]
    rintro rfl
    exact hfield.space_notMem hc
  have hstart : (" " ++ r.words ++ " ").toList ++ cs = ' ' :: (r.words.toList ++ ' ' :: cs) := by
    simp
  have htake : (field.toList ++ ((" " ++ r.words ++ " ").toList ++ cs)).takeWhile (· != ' ')
      = field.toList := by
    rw [List.takeWhile_append_of_pos hspace, hstart]
    simp
  have hdrop : (field.toList ++ ((" " ++ r.words ++ " ").toList ++ cs)).dropWhile (· != ' ')
      = (" " ++ r.words ++ " ").toList ++ cs := by
    rw [List.dropWhile_append_of_pos hspace, hstart]
    simp
  rw [read?, htake, hdrop, readRelation_words hr]
  simp only [Option.bind_eq_bind, Option.bind_some, h, String.ofList_toList]

/-- A text behind a clause: it is empty or begins with a space. -/
def Follows (rest : List Char) : Prop :=
  ∀ c ∈ rest.head?, c = ' '

theorem Follows.delimited {rest : List Char} (h : Follows rest) : Delimited rest := by
  intro c hc
  rw [h c hc]
  rfl

/-- The clause of a checked filter is read off its text. -/
theorem read?_render {p : Predicate} (hp : p.WellFormed) {k : Clause} (hk : p.clause? = some k)
    {rest : List Char} (h : Follows rest) : read? (k.render.toList ++ rest) = some (k, rest) := by
  have htext : k.render.toList ++ rest = k.field.toList
      ++ ((" " ++ k.relation.words ++ " ").toList
        ++ ((k.relation.spread k.literals).toList ++ rest)) := by
    simp [Clause.render]
  rw [htext]
  cases p with
  | fullText => cases hk
  | comparison field op value =>
    cases hk
    obtain ⟨hfield, hop⟩ := hp
    refine read?_of_readLiterals hfield (by cases op <;> simp_all [Relation.all]) ?_
    simp only [readLiterals, Relation.spread, String.intercalate_singleton,
      value.readLiteral_literal h.delimited]
    rfl
  | between field low high =>
    cases hk
    refine read?_of_readLiterals hp.1 (by simp [Relation.all]) ?_
    have hspread : (Relation.between.spread [low.literal, high.literal]).toList ++ rest
        = low.literal.toList ++ (" AND ".toList ++ (high.literal.toList ++ rest)) := by
      simp [Relation.spread]
    have hand : Delimited (" AND ".toList ++ (high.literal.toList ++ rest)) :=
      delimited_cons (by decide) ("AND ".toList ++ (high.literal.toList ++ rest))
    rw [hspread]
    simp only [readLiterals, low.readLiteral_literal hand, Option.bind_eq_bind, Option.bind_some,
      (after?_eq_some_iff _ _ _).2 rfl, high.readLiteral_literal h.delimited]
  | membership field values negated =>
    cases hk
    have hvalues := Value.readList_literals hp.2 rest
    cases negated <;>
    · refine read?_of_readLiterals hp.1 (by simp [Relation.all]) ?_
      exact hvalues

end Clause

/-! ## 3. Conditions -/

/-- The predicates that come of a check. -/
inductive Predicate.Checked : Predicate → Prop
  | compare {field : String} {op : Operator} {operand : Operand} {p : Predicate} :
      Predicate.compare field op operand = .ok p → Checked p
  | range {field : String} {low high : Value} {p : Predicate} :
      Predicate.range field low high = .ok p → Checked p
  | oneOf {negated : Bool} {field : String} {values : List Value} {p : Predicate} :
      Predicate.oneOf negated field values = .ok p → Checked p
  | search {field : String} {terms : List String} {a : Anchoring} {p : Predicate} :
      Predicate.search field terms a = .ok p → Checked p
  | searchAll {terms : List String} {a : Anchoring} {p : Predicate} :
      Predicate.searchAll terms a = .ok p → Checked p

theorem Predicate.Checked.wellFormed {p : Predicate} (h : p.Checked) : p.WellFormed := by
  cases h with
  | compare h => exact wellFormed_compare h
  | range h => exact wellFormed_range h
  | oneOf h => exact wellFormed_oneOf h
  | search h => exact wellFormed_search h
  | searchAll h => exact wellFormed_searchAll h

namespace Condition

/-- The conditions that are made by adding checked predicates. -/
inductive Built : Condition → Prop
  | empty : Built .empty
  | add {c : Condition} {p : Predicate} : Built c → p.Checked → Built (c.add p)

theorem Built.wellFormed {c : Condition} (h : c.Built) : ∀ p ∈ c.predicates, p.WellFormed := by
  induction h with
  | empty => simp [Condition.empty]
  | add _ hp ih =>
    intro q hq
    rcases List.mem_append.1 hq with hq | hq
    · exact ih q hq
    · rw [List.mem_singleton.1 hq]
      exact hp.wellFormed

/-- The text of the filters is read back clause by clause. -/
theorem readAll?_filters {c : Condition} (hc : ∀ p ∈ c.predicates, p.WellFormed) :
    Clause.readAll? c.parts.1 = some c.filterClauses := by
  have hne : ∀ p ∈ c.predicates, p.render ≠ "" := fun p hp => Predicate.render_ne_empty (hc p hp)
  have hempty : c.parts.1.isEmpty = true ↔ c.filterClauses = [] := by
    rw [parts_eq hne, String.isEmpty_iff,
      intercalate_eq_empty_iff _ (filterText_ne_empty hne), c.map_render_filters,
      List.map_eq_nil_iff]
  rw [Clause.readAll?]
  by_cases hk : c.filterClauses = []
  · rw [if_pos (hempty.2 hk), hk]
  · have hread : ∀ k ∈ c.filterClauses, ∀ rest, Clause.Follows rest →
        Clause.read? (k.render.toList ++ rest) = some (k, rest) := by
      intro k hmem rest hrest
      obtain ⟨p, hp, hpk⟩ := List.mem_filterMap.1 hmem
      exact Clause.read?_render (hc p hp) hpk hrest
    have htext : c.parts.1.toList
        = " AND ".toList.intercalate (c.filterClauses.map fun k => k.render.toList) ++ [] := by
      rw [parts_eq hne, c.map_render_filters, String.toList_intercalate, List.map_map,
        List.append_nil]
      rfl
    have hall : separated Clause.read? " AND ".toList c.parts.1.toList
        = some (c.filterClauses.map id, []) := by
      rw [htext]
      exact separated_intercalate (by decide) (fun more c hc => by cases hc; rfl) hk hread
        (fun c hc => by cases hc) rfl
    rw [if_neg (mt hempty.1 hk), hall, List.map_id]

/-- **The filters of a condition are told apart by their text.** It is read back
to the clauses of the filters in order, each with its column, its relation and
its literals, so two conditions with the same text of filters have the same
clauses. -/
theorem clauses_of_filters :
    (∀ c : Condition, c.Built → Clause.readAll? c.parts.1 = some c.filterClauses) ∧
    ∀ c c' : Condition, c.Built → c'.Built → c.parts.1 = c'.parts.1 →
      c.filterClauses = c'.filterClauses := by
  have hread : ∀ c : Condition, c.Built → Clause.readAll? c.parts.1 = some c.filterClauses :=
    fun c hc => readAll?_filters hc.wellFormed
  refine ⟨hread, fun c c' hc hc' h => ?_⟩
  have hsome : some c.filterClauses = some c'.filterClauses := by
    rw [← hread c hc, ← hread c' hc', h]
  exact Option.some.inj hsome

/-- A column with the name `AND` and a text that looks like a clause; the same
text comes of a number that is given as a text, with a search in between. -/
theorem clauses_of_filters_spelling :
    let range (low : Value) : Predicate := .between "AND" low (.int 2)
    let named : Predicate := .comparison "b" .eq (.text "' AND c = '1")
    let c : Condition := ⟨[range (.int 1), named]⟩
    let c' : Condition := ⟨[range (.text " 1 "), .fullText none ["x"] .loose, named]⟩
    c.Built ∧ c'.Built ∧ c.parts.1 = "AND BETWEEN 1 AND 2 AND b = '\\' AND c \\\\= \\'1'" ∧
      c.parts.1 = c'.parts.1 ∧ c.filterClauses = c'.filterClauses ∧
      Clause.readAll? c.parts.1 = some [⟨"AND", .between, ["1", "2"]⟩,
        ⟨"b", .compared .eq, ["'\\' AND c \\\\= \\'1'"]⟩] := by
  intro range named c c'
  have hnumber : Predicate.range "A-N-D" (.int 1) (.int 2) = .ok (range (.int 1)) := by
    decide +kernel
  have hdigits : Predicate.range "AND" (.text " 1 ") (.int 2) = .ok (range (.text " 1 ")) := by
    decide +kernel
  have hnamed : Predicate.compare "b" .eq (.scalar (.text "' AND c = '1")) = .ok named := by
    decide +kernel
  have hsearch : Predicate.searchAll ["x"] .loose = .ok (.fullText none ["x"] .loose) := rfl
  have hc : c.Built := .add (.add .empty (.range hnumber)) (.compare hnamed)
  have hc' : c'.Built :=
    .add (.add (.add .empty (.range hdigits)) (.searchAll hsearch)) (.compare hnamed)
  have htext : c.parts.1 = c'.parts.1 := by decide +kernel
  exact ⟨hc, hc', by decide +kernel, htext, clauses_of_filters.2 c c' hc hc' htext,
    (clauses_of_filters.1 c hc).trans (by decide +kernel)⟩

end Condition

end SearchSql
