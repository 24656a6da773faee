/-
SearchSql.Proofs.SwappedBounds — the order of two values, with the two exchanged.

Values are compared by kinds: integers exactly, texts as numbers if both are numbers
and character by character if not, and all other pairs as doubles. Whichever rule
applies to a pair applies to the pair exchanged, so the answers are opposite to each
other. A range needs a smaller first bound, so of a range and its reverse one at most
is accepted, and none with equal bounds.

* `Value.order?_swap` — the order of two values that are exchanged.
* `Value.order?_self` — a value against itself.
* `Value.order_and_ranges_swap` — both, with what follows for ranges.
-/
import SearchSql.Proofs.CallChanges
import SearchSql.Proofs.RangeBounds

namespace SearchSql

open SearchSql.Number

/-! ## 1. Doubles -/

namespace Number.Double

theorem order?_swap (x y : Double) : y.order? x = (x.order? y).map Ordering.swap := by
  rw [order?, order?, Bool.or_comm]
  split
  · rfl
  · rw [Option.map_some, ← Std.OrientedOrd.eq_swap]

theorem order?_self (x : Double) : x.order? x = if x.isNaN then none else some .eq := by
  rw [order?, Bool.or_self, Std.ReflOrd.compare_self]

end Number.Double

/-! ## 2. Values -/

namespace Value

/-- The values that are in no order, not even with themselves: null, and a double
that is no number. -/
def isUnordered : Value → Bool
  | .null => true
  | .float x => x.isNaN
  | .int _ | .text _ => false

theorem numberOrder?_swap (v w : Value) :
    w.numberOrder? v = (v.numberOrder? w).map Ordering.swap := by
  rw [numberOrder?, numberOrder?]
  cases v.float? with
  | none => cases w.float? <;> rfl
  | some x =>
    cases w.float? with
    | none => rfl
    | some y => exact Double.order?_swap x y

/-- **Two values that are exchanged are in the opposite order**, or in none as
before. -/
theorem order?_swap (v w : Value) : w.order? v = (v.order? w).map Ordering.swap := by
  by_cases hints : ∃ m n, v = .int m ∧ w = .int n
  · obtain ⟨m, n, rfl, rfl⟩ := hints
    rw [order?, order?, Option.map_some, ← Std.OrientedOrd.eq_swap]
  by_cases htexts : ∃ s t, v = .text s ∧ w = .text t
  · obtain ⟨s, t, rfl, rfl⟩ := htexts
    -- Whether both texts are numbers does not depend on which one is the first.
    simp only [order?_text, and_comm]
    split
    · exact numberOrder?_swap (.text s) (.text t)
    · rw [Option.map_some, ← Std.OrientedOrd.eq_swap]
  · have hints' : ¬∃ m n, w = .int m ∧ v = .int n := by
      rintro ⟨m, n, hw, hv⟩
      exact hints ⟨n, m, hv, hw⟩
    have htexts' : ¬∃ s t, w = .text s ∧ v = .text t := by
      rintro ⟨s, t, hw, hv⟩
      exact htexts ⟨t, s, hv, hw⟩
    rw [order?_of_kinds hints htexts, order?_of_kinds hints' htexts']
    exact numberOrder?_swap v w

/-- **A value is equal to itself**, unless it is in no order at all. -/
theorem order?_self (v : Value) : v.order? v = if v.isUnordered then none else some .eq := by
  cases v with
  | null => rfl
  | int n => rw [order?, Std.ReflOrd.compare_self]; rfl
  | float x => exact Double.order?_self x
  | text s =>
    have htext : (text s).isUnordered = false := rfl
    rw [order?_text, htext]
    split
    · next hsome =>
      obtain ⟨x, hx⟩ := Option.isSome_iff_exists.1 hsome.1
      have hfinite : x.isFinite = true := by
        rw [float?, Option.filter_eq_some_iff] at hx
        exact hx.2
      have hequal : x.order? x = some .eq := by
        rw [Double.order?_self, Double.isNaN_of_isFinite hfinite]
        rfl
      exact numberOrder?_eq_some_iff.2 ⟨x, x, hx, hx, hequal⟩
    · rw [Std.ReflOrd.compare_self]
      rfl

end Value

/-! ## 3. Ranges -/

namespace Predicate

/-- What the refusal of a range from a value to itself says: that there is no such
field, or which bounds are not in order. -/
inductive EmptyRange (field : String) (v : Value) : Error → Prop
  | field (h : Name.field field = .error (.invalidField field)) :
    EmptyRange field v (.invalidField field)
  | bounds (name : String) (h : Name.field field = .ok name) :
    EmptyRange field v (.invalidRange name v.literal v.literal)

/-- Of a range and its reverse one at most is accepted. -/
theorem not_ok_of_range {field : String} {v w : Value} {p : Predicate}
    (h : range field v w = .ok p) (q : Predicate) : range field w v ≠ .ok q := by
  intro hq
  obtain ⟨-, -, hless, -⟩ := of_range h
  obtain ⟨-, -, hmore, -⟩ := of_range hq
  rw [Value.order?_swap v w, hless] at hmore
  cases hmore

/-- No range from a value to itself is accepted. -/
theorem range_self (field : String) (v : Value) :
    ∃ e, EmptyRange field v e ∧ range field v v = .error e := by
  cases hname : Name.field field with
  | error e =>
    obtain rfl := (Name.field_eq_error_iff.1 hname).2
    refine ⟨_, .field hname, ?_⟩
    rw [range, hname]
    rfl
  | ok name =>
    have hself : (v.order? v == some .lt) = false := by
      rw [Value.order?_self]
      split <;> rfl
    refine ⟨_, .bounds name hname, ?_⟩
    rw [range_of_field hname, hself]
    rfl

end Predicate

namespace Builder

/-- A call that declares a range is accepted where its range is. -/
theorem call_between_ok_iff (b : Builder) (field : String) (low high : Value) :
    (b.call (.between field low high)).1 = .ok () ↔
      ∃ p, Predicate.range field low high = .ok p := by
  rw [call_eq, Call.check]
  cases Predicate.range field low high with
  | error e => simp [Except.map]
  | ok p => simp [Except.map]

/-- A call that declares a range that is refused leaves the builder as it was. -/
theorem call_between_of_error (b : Builder) {field : String} {low high : Value} {e : Error}
    (h : Predicate.range field low high = .error e) :
    b.call (.between field low high) = (.error e, b) := by
  have hcheck : (Call.between field low high).check = .error e := map_eq_error_iff.2 h
  exact call_of_check_error hcheck b

end Builder

namespace Value

/-- **Exchanging the bounds turns their order round**, and keeps it where they are
equal or in no order. A value is equal to itself but for null and what is no number;
null is in no order with anything. So a range and the one with its bounds exchanged
are never both accepted, whatever was declared before, and a range from a value to
itself is refused. -/
theorem order_and_ranges_swap (v w : Value) :
    w.order? v = (v.order? w).map Ordering.swap ∧
    (v.order? v = if v.isUnordered then none else some .eq) ∧
    (Value.null.order? w = none ∧ v.order? .null = none) ∧
    ∀ field,
      (∀ p, Predicate.range field v w = .ok p → ∀ q, Predicate.range field w v ≠ .ok q) ∧
      (∀ b c : Builder, (b.call (.between field v w)).1 = .ok () →
        (c.call (.between field w v)).1 ≠ .ok ()) ∧
      ∃ e, Predicate.EmptyRange field v e ∧ Predicate.range field v v = .error e ∧
        ∀ b : Builder, b.call (.between field v v) = (.error e, b) := by
  refine ⟨order?_swap v w, order?_self v, ⟨rfl, order?_null v⟩, fun field => ⟨?_, ?_, ?_⟩⟩
  · exact fun p hp => Predicate.not_ok_of_range hp
  · intro b c hb hc
    obtain ⟨p, hp⟩ := (b.call_between_ok_iff field v w).1 hb
    obtain ⟨q, hq⟩ := (c.call_between_ok_iff field w v).1 hc
    exact Predicate.not_ok_of_range hp q hq
  · obtain ⟨e, he, hrange⟩ := Predicate.range_self field v
    exact ⟨e, he, hrange, fun b => b.call_between_of_error hrange⟩

/-- As texts, nine is less than ten by their numbers and not by their characters,
and the range is accepted in that direction only. -/
theorem order_and_ranges_swap_of_numerals :
    let nine : Value := .text " 9 "
    let ten : Value := .text "1e1"
    nine.order? ten = some .lt ∧ ten.order? nine = some .gt ∧
      Predicate.range "pri-ce" nine ten = .ok (.between "price" nine ten) ∧
      (∀ q, Predicate.range "pri-ce" ten nine ≠ .ok q) ∧
      ∀ b c : Builder, (b.call (.between "pri-ce" nine ten)).1 = .ok () ∧
        (c.call (.between "pri-ce" ten nine)).1 ≠ .ok () := by
  intro nine ten
  have horder : nine.order? ten = some .lt := by decide +kernel
  have hrange : Predicate.range "pri-ce" nine ten = .ok (.between "price" nine ten) := by
    decide +kernel
  obtain ⟨hswap, -, -, hranges⟩ := order_and_ranges_swap nine ten
  obtain ⟨hnever, hcalls, -⟩ := hranges "pri-ce"
  rw [horder] at hswap
  refine ⟨horder, hswap, hrange, hnever _ hrange, fun b c => ?_⟩
  have hcall : (b.call (.between "pri-ce" nine ten)).1 = .ok () :=
    (b.call_between_ok_iff "pri-ce" nine ten).2 ⟨_, hrange⟩
  exact ⟨hcall, hcalls b c hcall⟩

end Value

end SearchSql
