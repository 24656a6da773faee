/-
SearchSql.Proofs.CallOrder — the order of calls matters within a topic only.

Every call is about one topic: the start of a statement, its searches, its
filters, its rows, or one of its options. Searches, filters and rows add up in
the order in which they are given, each of the three for itself; in any other
topic a call takes the place of the one before. So a statement depends on three
lists and on the last call of each other topic, and not on how the calls of
different topics are mixed.

* `Topic`, `Call.topic` — what a call is about.
* `Builder.SameAt` — builders with the same content in one topic. A call of
  another topic keeps the content (`Builder.sameAt_call`), any call takes equal
  contents to equal contents (`Builder.SameAt.call`), and a call of a topic that
  does not add up makes them equal (`Builder.sameAt_call_of_overwriting`).
* `Builder.compile_of_agree` — calls that agree topic by topic compile alike.
-/
import SearchSql.Proofs.CompileOutcome
import SearchSql.Proofs.FreshBuilders

namespace SearchSql

/-! ## 1. Topics -/

/-- What a call is about. -/
inductive Topic
  | start
  | search
  | filter
  | row
  | groupBy
  | orderBy
  | limit
  | maxMatches
  | pairs
deriving DecidableEq

/-- The topics whose calls add up. -/
def Topic.addsUp : Topic → Bool
  | .search | .filter | .row => true
  | _ => false

def Call.topic : Call → Topic
  | .selectFrom .. | .insertInto .. | .replaceInto .. | .deleteFrom .. => .start
  | .search .. | .searchAll .. => .search
  | .filter .. | .between .. | .oneOf .. => .filter
  | .values .. => .row
  | .groupBy .. => .groupBy
  | .orderBy .. => .orderBy
  | .limit .. => .limit
  | .maxMatches .. => .maxMatches
  | .pairs .. => .pairs

/-- The calls of a topic, in order. -/
def Topic.calls (t : Topic) (cs : List Call) : List Call :=
  cs.filter (·.topic = t)

/-- Calls with the same searches, filters and rows, and with the same last call
of each other topic. -/
structure Agree (cs ds : List Call) : Prop where
  added : ∀ t : Topic, t.addsUp = true → t.calls cs = t.calls ds
  last : ∀ t : Topic, t.addsUp = false → (t.calls cs).getLast? = (t.calls ds).getLast?

/-! ## 2. The topic of a change -/

def Change.topic : Change → Topic
  | .target _ => .start
  | .predicate p => if p.isFullText then .search else .filter
  | .row _ => .row
  | .groupBy _ => .groupBy
  | .orderBy .. => .orderBy
  | .limit .. => .limit
  | .maxMatches _ => .maxMatches
  | .pairs _ => .pairs

namespace Predicate

theorem isFullText_of_compare {field : String} {op : Operator} {operand : Operand}
    {p : Predicate} (h : compare field op operand = .ok p) : p.isFullText = false := by
  obtain ⟨name, -, ⟨v, -, -, rfl⟩ | ⟨negated, vs, -, -, rfl⟩⟩ := of_compare h <;> rfl

theorem isFullText_of_range {field : String} {low high : Value} {p : Predicate}
    (h : range field low high = .ok p) : p.isFullText = false := by
  obtain ⟨name, -, -, rfl⟩ := of_range h
  rfl

theorem isFullText_of_oneOf {negated : Bool} {field : String} {values : List Value}
    {p : Predicate} (h : oneOf negated field values = .ok p) : p.isFullText = false := by
  obtain ⟨name, -, -, rfl⟩ := of_oneOf h
  rfl

theorem isFullText_of_search {field : String} {terms : List String} {a : Anchoring}
    {p : Predicate} (h : search field terms a = .ok p) : p.isFullText = true := by
  obtain ⟨name, -, -, rfl⟩ := of_search h
  rfl

theorem isFullText_of_searchAll {terms : List String} {a : Anchoring} {p : Predicate}
    (h : searchAll terms a = .ok p) : p.isFullText = true := by
  obtain ⟨-, rfl⟩ := of_searchAll h
  rfl

end Predicate

/-- A call changes what it is about. -/
theorem Call.topic_of_check {c : Call} {change : Change} (h : c.check = .ok change) :
    change.topic = c.topic := by
  have hchange := change_of_check h
  cases c with
  | selectFrom | insertInto | replaceInto | deleteFrom =>
    obtain ⟨t, rfl⟩ := hchange
    rfl
  | filter field op operand =>
    obtain ⟨p, hp, rfl⟩ := map_eq_ok_iff.1 h
    simp [Change.topic, topic, Predicate.isFullText_of_compare hp]
  | between field low high =>
    obtain ⟨p, hp, rfl⟩ := map_eq_ok_iff.1 h
    simp [Change.topic, topic, Predicate.isFullText_of_range hp]
  | oneOf negated field values =>
    obtain ⟨p, hp, rfl⟩ := map_eq_ok_iff.1 h
    simp [Change.topic, topic, Predicate.isFullText_of_oneOf hp]
  | search field terms anchoring =>
    obtain ⟨p, hp, rfl⟩ := map_eq_ok_iff.1 h
    simp [Change.topic, topic, Predicate.isFullText_of_search hp]
  | searchAll terms anchoring =>
    obtain ⟨p, hp, rfl⟩ := map_eq_ok_iff.1 h
    simp [Change.topic, topic, Predicate.isFullText_of_searchAll hp]
  | groupBy | orderBy =>
    obtain ⟨column, rfl⟩ := hchange
    rfl
  | limit | maxMatches | pairs =>
    cases h
    rfl
  | values row =>
    obtain ⟨-, rfl⟩ := hchange
    rfl

/-! ## 3. One topic of a builder -/

namespace Condition

theorem searches_add (c : Condition) (p : Predicate) :
    (c.add p).searches = c.searches ++ if p.isFullText then [p] else [] := by
  cases hp : p.isFullText <;> simp [searches, add, hp]

theorem filters_add (c : Condition) (p : Predicate) :
    (c.add p).filters = c.filters ++ if p.isFullText then [] else [p] := by
  cases hp : p.isFullText <;> simp [filters, add, hp]

end Condition

namespace Builder

/-- Builders with the same content in a topic. -/
def SameAt (t : Topic) (b b' : Builder) : Prop :=
  match t with
  | .start => b.target = b'.target
  | .search => b.condition.searches = b'.condition.searches
  | .filter => b.condition.filters = b'.condition.filters
  | .row => b.rows = b'.rows
  | .groupBy => b.options.groupBy = b'.options.groupBy
  | .orderBy => b.options.orderBy = b'.options.orderBy
  | .limit => b.options.paging.offset = b'.options.paging.offset ∧
      b.options.paging.limit = b'.options.paging.limit
  | .maxMatches => b.options.paging.maxMatches = b'.options.paging.maxMatches
  | .pairs => b.options.pairs = b'.options.pairs

variable {t : Topic} {b b' b'' : Builder}

theorem SameAt.refl (t : Topic) (b : Builder) : SameAt t b b := by
  cases t <;> simp [SameAt]

theorem SameAt.symm (h : SameAt t b b') : SameAt t b' b := by
  cases t <;> simp_all [SameAt]

theorem SameAt.trans (h : SameAt t b b') (h' : SameAt t b' b'') : SameAt t b b'' := by
  cases t <;> simp_all [SameAt]

/-- A change of another topic keeps the content. -/
theorem sameAt_make {change : Change} (h : change.topic ≠ t) (b : Builder) :
    SameAt t (b.make change) b := by
  cases change with
  | predicate p =>
    cases hp : p.isFullText <;> cases t <;>
      simp_all [SameAt, make, Change.topic, Condition.searches_add, Condition.filters_add]
  | _ => cases t <;> simp_all [SameAt, make, Change.topic]

/-- A change takes equal contents to equal contents. -/
theorem SameAt.make (h : SameAt t b b') (change : Change) :
    SameAt t (b.make change) (b'.make change) := by
  cases change with
  | predicate p =>
    cases t <;> simp_all [SameAt, Builder.make, Condition.searches_add, Condition.filters_add]
  | _ => cases t <;> simp_all [SameAt, Builder.make]

/-- In a topic that does not add up the content is that of the last change. -/
theorem sameAt_make_of_overwriting {change : Change} (h : change.topic.addsUp = false)
    (b b' : Builder) : SameAt change.topic (b.make change) (b'.make change) := by
  cases change with
  | predicate p => cases hp : p.isFullText <;> simp [Change.topic, hp, Topic.addsUp] at h
  | row => cases h
  | _ => simp [SameAt, make, Change.topic]

/-! ## 4. Calls -/

theorem sameAt_call {c : Call} (h : c.topic ≠ t) (b : Builder) : SameAt t (b.call c).2 b := by
  rw [call_snd]
  cases hc : c.check with
  | ok change => exact sameAt_make (Call.topic_of_check hc ▸ h) b
  | error e => exact .refl t b

theorem SameAt.call (h : SameAt t b b') (c : Call) : SameAt t (b.call c).2 (b'.call c).2 := by
  rw [call_snd, call_snd]
  cases c.check with
  | ok change => exact h.make change
  | error e => exact h

theorem sameAt_call_of_overwriting {c : Call} (hc : (b''.call c).1 = .ok ())
    (hover : c.topic.addsUp = false) (b b' : Builder) :
    SameAt c.topic (b.call c).2 (b'.call c).2 := by
  cases hcheck : c.check with
  | ok change =>
    rw [← Call.topic_of_check hcheck] at hover ⊢
    rw [call_of_check_ok hcheck, call_of_check_ok hcheck]
    exact sameAt_make_of_overwriting hover b b'
  | error e =>
    rw [call_of_check_error hcheck] at hc
    cases hc

/-- The builder after calls one after the other. -/
def declare (b : Builder) (cs : List Call) : Builder :=
  b.run (cs.map .declare)

@[simp] theorem declare_nil (b : Builder) : b.declare [] = b := rfl

@[simp] theorem declare_cons (b : Builder) (c : Call) (cs : List Call) :
    b.declare (c :: cs) = (b.call c).2.declare cs := rfl

@[simp] theorem declare_append (b : Builder) (cs ds : List Call) :
    b.declare (cs ++ ds) = (b.declare cs).declare ds := by
  simp [declare]

/-- Calls that all succeed, one after the other. -/
def Succeeds (b : Builder) : List Call → Prop
  | [] => True
  | c :: cs => (b.call c).1 = .ok () ∧ (b.call c).2.Succeeds cs

/-- A call that is among them succeeds where it stands. -/
theorem Succeeds.exists_call {c : Call} : ∀ {cs : List Call} {b : Builder}, b.Succeeds cs → c ∈ cs →
    ∃ b' : Builder, (b'.call c).1 = .ok ()
  | d :: cs, b, h, hc => by
      rcases List.mem_cons.1 hc with rfl | hc
      · exact ⟨b, h.1⟩
      · exact h.2.exists_call hc

/-- The content in a topic is that of the calls of the topic alone. -/
theorem SameAt.declare_calls : ∀ {cs : List Call} {b b' : Builder}, SameAt t b b' →
    SameAt t (b.declare cs) (b'.declare (t.calls cs))
  | [], b, b', h => h
  | c :: cs, b, b', h => by
      by_cases hc : c.topic = t
      · have hcalls : t.calls (c :: cs) = c :: t.calls cs := by simp [Topic.calls, hc]
        rw [hcalls, declare_cons, declare_cons]
        exact declare_calls (h.call c)
      · have hcalls : t.calls (c :: cs) = t.calls cs := by simp [Topic.calls, hc]
        rw [hcalls, declare_cons]
        exact declare_calls ((sameAt_call hc b).trans h)

/-- Calls that agree take equal contents to equal contents. Where calls take the
place of each other, the last one has to succeed. -/
theorem SameAt.declare_of_agree {cs ds : List Call} (h : SameAt t b b') (hagree : Agree cs ds)
    (hcs : b''.Succeeds cs) : SameAt t (b.declare cs) (b'.declare ds) := by
  have hcalls : SameAt t (b.declare cs) (b'.declare (t.calls cs)) := h.declare_calls
  refine hcalls.trans (.trans ?_ (SameAt.refl t b').declare_calls.symm)
  cases ht : t.addsUp with
  | true =>
    rw [hagree.added t ht]
    exact .refl t _
  | false =>
    have hlast := hagree.last t ht
    rcases List.eq_nil_or_concat' (t.calls cs) with hnil | ⟨init, c, hinit⟩
    · rw [hnil] at hlast ⊢
      rw [List.getLast?_eq_none_iff.1 hlast.symm]
      exact .refl t b'
    · rw [hinit, List.getLast?_concat] at hlast
      obtain ⟨init', hinit'⟩ := List.getLast?_eq_some_iff.1 hlast.symm
      have hmem : c ∈ cs ∧ c.topic = t := by
        have hcalls : c ∈ t.calls cs := by simp [hinit]
        simpa [Topic.calls] using hcalls
      obtain ⟨other, hok⟩ := hcs.exists_call hmem.1
      rw [hinit, hinit', declare_append, declare_append, ← hmem.2]
      exact sameAt_call_of_overwriting hok (hmem.2 ▸ ht) _ _

/-! ## 5. Statements -/

theorem options_eq_of_sameAt (h : ∀ t, SameAt t b b') : b.options = b'.options := by
  have hgroup := h .groupBy
  have horder := h .orderBy
  have hlimit := h .limit
  have hmatches := h .maxMatches
  have hpairs := h .pairs
  rcases b with ⟨d, target, condition, ⟨g, o, ⟨offset, limit, cap⟩, pairs⟩, rows⟩
  rcases b' with ⟨d', target', condition', ⟨g', o', ⟨offset', limit', cap'⟩, pairs'⟩, rows'⟩
  simp_all [SameAt]

/-- A draft depends on a condition by its text only. -/
theorem draft_congr (ht : b.target = b'.target) (hc : b.condition.render = b'.condition.render)
    (ho : b.options = b'.options) (hr : b.rows = b'.rows) : b.draft = b'.draft := by
  simp only [draft, draftFor, needCondition, needRows, needArity, selectText, writeText,
    deleteText, ht, hc, ho, hr]

/-- Builders with the same content in every topic have the same draft, however
their searches and filters are mixed. -/
theorem draft_eq_of_sameAt (hb : b.WellFormed) (hb' : b'.WellFormed) (h : ∀ t, SameAt t b b') :
    b.draft = b'.draft := by
  have hsearches : b.condition.searches = b'.condition.searches := h .search
  have hfilters : b.condition.filters = b'.condition.filters := h .filter
  have hrender : b.condition.render = b'.condition.render := by
    rw [Condition.render_eq hb.render_ne_empty, Condition.render_eq hb'.render_ne_empty,
      Condition.clauses, Condition.clauses, Condition.query, Condition.query, hsearches, hfilters]
  exact draft_congr (h .start) hrender (options_eq_of_sameAt h) (h .row)

/-- **The order of calls matters within a topic only.** Two builders with the same
paging, neither of them with anything declared, are given calls that succeed:
the same searches, filters and rows, each in the same order, and the same last
call of each other topic. Then they compile to the same statement, or both fail
with the same error, however the calls are mixed and whatever calls were
overwritten. -/
theorem compile_of_agree {p : Paging} {us us' : List Use} (hus : recent p us = [])
    (hus' : recent p us' = []) {cs ds : List Call}
    (hcs : ((ofPaging p).run us).Succeeds cs) (hagree : Agree cs ds) :
    ((ofPaging p).run (us ++ cs.map .declare)).compile.result
      = ((ofPaging p).run (us' ++ ds.map .declare)).compile.result := by
  have hsame : ∀ t, SameAt t ((ofPaging p).run (us ++ cs.map .declare))
      ((ofPaging p).run (us' ++ ds.map .declare)) := by
    intro t
    rw [run_append, run_append, run_recent p us, run_recent p us', hus, hus']
    exact (SameAt.refl t (ofPaging p)).declare_of_agree hagree hcs
  rw [result_compile, result_compile]
  exact draft_eq_of_sameAt (reachable_run p _).wellFormed (reachable_run p _).wellFormed hsame

/-- A SELECT declared behind an INSERT that it takes the place of, with options
set twice, by a builder that was used before; and the same SELECT declared in
another order by a new builder. -/
theorem compile_of_agree_interleaved :
    let p : Paging := .standard
    let us : List Use := [.declare (.deleteFrom "stock"),
      .declare (.filter "id" .eq (.scalar (.int 1))), .compile]
    let select : Call := .selectFrom "products" (.columns ["id", "name"])
    let red : Call := .search "@title" ["red"] .loose
    let shoe : Call := .searchAll ["shoe"] .exact
    let price : Call := .filter "price" .gt (.scalar (.int 10))
    let brand : Call := .oneOf true "brand" [.int 3, .null]
    let cs : List Call := [price, .limit 5 6, .insertInto "stock" (.columns ["id"]), red, brand,
      .orderBy "price" .asc, select, shoe, .pairs true, .orderByDescending "weight", .take 9]
    let ds : List Call := [select, red, shoe, .take 9, .orderByDescending "weight", price,
      .pairs true, brand]
    recent p us = [] ∧ ((ofPaging p).run us).Succeeds cs ∧ Agree cs ds ∧
      ((ofPaging p).run (us ++ cs.map .declare)).compile.result
        = ((ofPaging p).run ([] ++ ds.map .declare)).compile.result ∧
      ((ofPaging p).run (us ++ cs.map .declare)).compile.result = .ok ⟨.select, "products",
        "SELECT id, name, WEIGHT() AS weight FROM products "
          ++ "WHERE MATCH('@title \"red\" \"^shoe$\"') AND price > 10 AND brand NOT IN (3, NULL) "
          ++ "ORDER BY weight DESC LIMIT 0, 9 OPTION max_matches=1000", .pairs "id" "name"⟩ := by
  intro p us select red shoe price brand cs ds
  have hus : recent p us = [] := by
    have hends : Use.compile.ends ((ofPaging p).run (us.take 2)) = true := by decide +kernel
    exact (recent_concat p (us.take 2) .compile).trans (if_pos hends)
  have hcs : ((ofPaging p).run us).Succeeds cs := by
    simp only [cs, Succeeds]
    decide +kernel
  have hagree : Agree cs ds := by
    constructor <;> intro t <;> cases t <;> decide +kernel
  have hresult : ((ofPaging p).run ([] ++ ds.map .declare)).compile.result = .ok ⟨.select,
      "products", "SELECT id, name, WEIGHT() AS weight FROM products "
        ++ "WHERE MATCH('@title \"red\" \"^shoe$\"') AND price > 10 AND brand NOT IN (3, NULL) "
        ++ "ORDER BY weight DESC LIMIT 0, 9 OPTION max_matches=1000", .pairs "id" "name"⟩ := by
    decide +kernel
  have hfresh : recent p [] = [] := rfl
  have hsame := compile_of_agree hus hfresh hcs hagree
  exact ⟨hus, hcs, hagree, hsame, hsame.trans hresult⟩

end Builder

end SearchSql
