/-
SearchSql.Proofs.RepeatedNames — one name, several cells.

A name may stand over several cells of a row: a SELECT projects the weight of a
match under the name `weight`, whether or not the fields it asks for have a
column of this name. A row is read in two ways, and they take different cells.

* `Row.get?_eq_head?` — looking a name up finds the first of its cells.
* `Row.lookup_entries` — the row as a mapping has the last of them.
* `Row.lookup_entries_eq_get?_iff` — so the two agree where the first cell and
  the last have one value, and nowhere else.
-/
import Mathlib.Data.List.Induction
import SearchSql.Row

namespace SearchSql.Row

/-! ## 1. The cells of a name -/

/-- The values of the cells that have exactly this name, in order. -/
def valuesOf (r : Row) (name : String) : List Value :=
  (r.cells.filter fun cell => cell.1 == name).map Prod.snd

theorem valuesOf_push (r : Row) (column name : String) (value : Value) :
    (r.push column value).valuesOf name
      = r.valuesOf name ++ if column = name then [value] else [] := by
  by_cases h : column = name <;> simp [valuesOf, push, h]

/-- A row is empty, or a row with one more cell at its end. -/
theorem push_induction {motive : Row → Prop} (start : motive empty)
    (step : ∀ r column value, motive r → motive (r.push column value)) (r : Row) : motive r := by
  obtain ⟨cells⟩ := r
  induction cells using List.reverseRecOn with
  | nil => exact start
  | append_singleton cells cell ih => exact step ⟨cells⟩ cell.1 cell.2 ih

theorem valuesOf_eq_nil_iff (r : Row) (name : String) :
    r.valuesOf name = [] ↔ name ∉ r.names := by
  simp only [valuesOf, names, List.map_eq_nil_iff, List.filter_eq_nil_iff, List.mem_map,
    beq_iff_eq, not_exists, not_and]

/-! ## 2. Looking a name up -/

theorem get?_eq_map (r : Row) (name : String) :
    r.get? name = (r.position? name).bind fun i => r.cells[i]?.map Prod.snd := by
  simp only [get?, Option.bind_eq_bind, Option.pure_def, Option.map_eq_bind, Function.comp_def]

/-- A name that occurs exactly addresses the first of its cells. -/
theorem get?_eq_head? {r : Row} {name : String} (h : name ∈ r.names) :
    r.get? name = (r.valuesOf name).head? := by
  obtain ⟨cell, hcell, rfl⟩ := List.mem_map.1 h
  obtain ⟨i, hi⟩ : ∃ i, r.cells.findIdx? (fun other => other.1 == cell.1) = some i := by
    rw [← Option.isSome_iff_exists, List.findIdx?_isSome, List.any_eq_true]
    exact ⟨cell, hcell, by simp⟩
  have hposition : r.position? cell.1 = some i := by rw [position?, hi]
  have hfind : r.cells.find? (fun other => other.1 == cell.1) = r.cells[i]? := by
    rw [List.find?_eq_bind_findIdx?_getElem?, hi, Option.bind_some]
  rw [get?_eq_map, hposition, Option.bind_some, valuesOf, List.head?_map, List.head?_filter, hfind]

/-! ## 3. The row as a mapping -/

theorem entries_push (r : Row) (column : String) (value : Value) :
    (r.push column value).entries = put column (settled value) r.entries := by
  simp [entries, push]

/-- A mapping has the value of the last cell of a name. -/
theorem lookup_entries (r : Row) (name : String) :
    r.entries.lookup name = (r.valuesOf name).getLast?.map settled := by
  -- Cell by cell from the right end: the last one to be put in is kept.
  induction r using push_induction with
  | start => rfl
  | step r column value ih =>
    rw [entries_push, valuesOf_push]
    by_cases h : column = name
    · subst h
      simp
    · rw [lookup_put_of_ne (Ne.symm h), ih]
      simp [h]

/-! ## 4. Both ways -/

/-- **The two readings of a name agree exactly where its first cell and its last
have the same value**, a double that is not finite counting as null. -/
theorem lookup_entries_eq_get?_iff (r : Row) (name : String) (h : name ∈ r.names) :
    ∃ first last, (r.valuesOf name).head? = some first ∧
      (r.valuesOf name).getLast? = some last ∧
      r.get? name = some first ∧ r.entries.lookup name = some (settled last) ∧
      (r.entries.lookup name = (r.get? name).map settled ↔ settled last = settled first) := by
  have hne : r.valuesOf name ≠ [] := fun hnil => (r.valuesOf_eq_nil_iff name).1 hnil h
  have hfirst : (r.valuesOf name).head? = some ((r.valuesOf name).head hne) :=
    List.head?_eq_some_head hne
  have hlast : (r.valuesOf name).getLast? = some ((r.valuesOf name).getLast hne) :=
    List.getLast?_eq_some_getLast hne
  refine ⟨_, _, hfirst, hlast, ?_, ?_, ?_⟩
  · rw [get?_eq_head? h, hfirst]
  · rw [lookup_entries, hlast, Option.map_some]
  · rw [lookup_entries, hlast, get?_eq_head? h, hfirst, Option.map_some, Option.map_some,
      Option.some.injEq]

/-- A double that is no number and a null under one name count as the same, and
a name with a capital is another name. -/
theorem lookup_entries_eq_get?_iff_of_nan :
    let r : Row := ⟨[("weight", .float ⟨0x7FF8000000000000⟩), ("Weight", .int 5), ("weight", .null)]⟩
    "weight" ∈ r.names ∧ r.entries.lookup "weight" = (r.get? "weight").map settled := by
  intro r
  have h : "weight" ∈ r.names := by decide
  obtain ⟨first, last, hfirst, hlast, -, -, hiff⟩ := lookup_entries_eq_get?_iff r "weight" h
  refine ⟨h, hiff.2 ?_⟩
  obtain rfl : _ = first := Option.some.inj hfirst
  obtain rfl : _ = last := Option.some.inj hlast
  decide

/-- The weight of a match behind a column of the same name: looking the name up
finds the column, and the mapping has the weight of the match. -/
theorem not_lookup_entries_eq_get?_of_weight :
    let r : Row := ⟨[("weight", .int 7), ("weight", .int 1500)]⟩
    "weight" ∈ r.names ∧ r.get? "weight" = some (.int 7) ∧
      r.entries.lookup "weight" = some (.int 1500) ∧
      ¬ r.entries.lookup "weight" = (r.get? "weight").map settled := by
  decide

end SearchSql.Row
