/-
SearchSql.Proofs.TakenCells — which cell a name stands for, and what taking its value
leaves.

A row is built by adding cells, and its values may be taken out in between. The cell
that a value is taken of stays and becomes null, so no name is ever moved or lost.
Which cell a name stands for depends on the names alone: it is the first of exactly
this name, or else the first whose name differs in the case of ASCII letters. Names
that differ in case may therefore stand for one cell.

* `Row.Addresses` — the place of the cell that a name stands for.
* `Row.Taken` — reading a name and taking its value, both at this place.
* `Row.BuiltBy` — what a row holds after a run of additions and takings.
* `Row.cells_over_runs` — all of it for every run, and for a column of rows.
-/
import Mathlib.Data.List.Forall2
import SearchSql.Proofs.FailedCalls
import SearchSql.Proofs.KeyedPairs

namespace SearchSql

open SearchSql.Text

namespace Row

/-! ## 1. The cell that a name stands for -/

/-- The first of the names that a property holds of stands at place `i`. -/
def FirstAt (p : String → Prop) (names : List String) (i : Nat) : Prop :=
  (∃ name, names[i]? = some name ∧ p name) ∧
    ∀ j < i, ∀ name, names[j]? = some name → ¬p name

/-- The place of the cell that a name stands for: the first cell of exactly this
name, or where there is none the first whose name is the same in small letters. -/
inductive Addresses (r : Row) (name : String) (i : Nat) : Prop
  | exactly (h : FirstAt (· = name) r.names i)
  | folded (hnone : name ∉ r.names)
      (h : FirstAt (fun other => other.toLower = name.toLower) r.names i)

theorem findIdx?_eq_some_iff_firstAt {p : String → Bool} {names : List String} {i : Nat} :
    names.findIdx? p = some i ↔ FirstAt (p · = true) names i := by
  rw [List.findIdx?_eq_some_iff_getElem, FirstAt]
  constructor
  · rintro ⟨hi, hp, hbefore⟩
    refine ⟨⟨names[i], List.getElem?_eq_getElem hi, hp⟩, fun j hj name hname => ?_⟩
    rw [List.getElem?_eq_getElem (Nat.lt_trans hj hi), Option.some.injEq] at hname
    exact hname ▸ hbefore j hj
  · rintro ⟨⟨name, hname, hp⟩, hbefore⟩
    obtain ⟨hi, rfl⟩ := List.getElem?_eq_some_iff.1 hname
    exact ⟨hi, hp, fun j hj => hbefore j hj _ (List.getElem?_eq_getElem (Nat.lt_trans hj hi))⟩

variable {r : Row} {name : String} {i : Nat}

/-- The place of a cell is found by the names of the row. -/
theorem position?_eq (r : Row) (name : String) : r.position? name =
    (r.names.findIdx? (· == name)).or
      (r.names.findIdx? fun other => sameFolded other.toList name.toList) := by
  rw [position?, names, List.findIdx?_map, List.findIdx?_map]
  cases h : r.cells.findIdx? fun cell => cell.1 == name <;> simp [Function.comp_def, h]

theorem position?_eq_some_iff : r.position? name = some i ↔ r.Addresses name i := by
  have hnone : r.names.findIdx? (· == name) = none ↔ name ∉ r.names := by
    rw [List.findIdx?_eq_none_iff]
    constructor
    · intro h hmem
      exact absurd (h name hmem) (by simp)
    · intro h other hother
      rw [beq_eq_false_iff_ne]
      rintro rfl
      exact h hother
  have hexact : ∀ {j}, r.names.findIdx? (· == name) = some j ↔ FirstAt (· = name) r.names j := by
    simp [findIdx?_eq_some_iff_firstAt]
  have hfolded : (r.names.findIdx? fun other => sameFolded other.toList name.toList) = some i ↔
      FirstAt (fun other => other.toLower = name.toLower) r.names i := by
    simp only [findIdx?_eq_some_iff_firstAt, sameFolded_toList_iff]
  rw [position?_eq, Option.or_eq_some_iff, hexact, hnone, hfolded]
  constructor
  · rintro (h | ⟨hnone, h⟩)
    · exact .exactly h
    · exact .folded hnone h
  · rintro (h | ⟨hnone, h⟩)
    · exact .inl h
    · exact .inr ⟨hnone, h⟩

/-- A name stands for no cell where no name of the row is the same in small
letters. -/
theorem position?_eq_none_iff :
    r.position? name = none ↔ ∀ other ∈ r.names, other.toLower ≠ name.toLower := by
  rw [position?_eq, Option.or_eq_none_iff, List.findIdx?_eq_none_iff, List.findIdx?_eq_none_iff]
  constructor
  · rintro ⟨-, hfolded⟩ other hother
    rw [Ne, ← sameFolded_toList_iff, hfolded other hother]
    decide
  · intro h
    refine ⟨fun other hother => ?_, fun other hother => ?_⟩
    · rw [beq_eq_false_iff_ne]
      rintro rfl
      exact h other hother rfl
    · rw [← Bool.not_eq_true, sameFolded_toList_iff]
      exact h other hother

theorem position?_eq_none_iff_forall :
    r.position? name = none ↔ ∀ i, ¬r.Addresses name i := by
  rw [Option.eq_none_iff_forall_ne_some]
  exact forall_congr' fun i => not_congr position?_eq_some_iff

theorem exists_addresses_iff :
    (∃ i, r.Addresses name i) ↔ ∃ other ∈ r.names, other.toLower = name.toLower := by
  rw [← not_iff_not, not_exists, ← position?_eq_none_iff_forall, position?_eq_none_iff]
  simp

/-! ## 2. Taking a value -/

/-- What comes of a name that stands for the cell at place `i`: it is read as the
value of this cell, and taking it gives the same value and empties this cell and no
other. The name then stands for the empty cell. -/
structure Taken (r : Row) (name : String) (i : Nat) (value : Value) (after : Row) : Prop where
  get?_eq : r.get? name = some value
  take?_eq : r.take? name = some (value, after)
  cell : ∃ column, r.cells[i]? = some (column, value) ∧ after.cells[i]? = some (column, .null)
  others : ∀ j, j ≠ i → after.cells[j]? = r.cells[j]?
  names : after.names = r.names
  get?_after : after.get? name = some .null
  take?_after : after.take? name = some (.null, after)

theorem get?_of_cell {column : String} {value : Value} (hposition : r.position? name = some i)
    (hcell : r.cells[i]? = some (column, value)) : r.get? name = some value := by
  simp [get?, hposition, hcell]

theorem take?_of_cell {column : String} {value : Value} (hposition : r.position? name = some i)
    (hcell : r.cells[i]? = some (column, value)) :
    r.take? name = some (value, ⟨r.cells.set i (column, .null)⟩) := by
  simp [take?, hposition, hcell]

/-- A name that stands for a cell is read and taken there. -/
theorem Addresses.taken (h : r.Addresses name i) : ∃ value after, r.Taken name i value after := by
  have hposition := position?_eq_some_iff.2 h
  have hplace : i < r.cells.length := by
    rw [position?_eq, Option.or_eq_some_iff] at hposition
    have hnames : r.names.length = r.cells.length := List.length_map ..
    rw [← hnames]
    rcases hposition with hplace | ⟨-, hplace⟩ <;>
      exact (List.findIdx?_eq_some_iff_getElem.1 hplace).1
  obtain ⟨⟨column, value⟩, hcell⟩ : ∃ cell, r.cells[i]? = some cell :=
    ⟨_, List.getElem?_eq_getElem hplace⟩
  have htake := take?_of_cell hposition hcell
  have hnames := names_of_take? htake
  have hempty : (r.cells.set i (column, .null))[i]? = some (column, Value.null) :=
    List.getElem?_set_self hplace
  -- The names are what they were, and so is the place of the cell.
  have hagain : (⟨r.cells.set i (column, .null)⟩ : Row).position? name = some i := by
    rw [position?_eq, hnames, ← position?_eq, hposition]
  refine ⟨value, _, get?_of_cell hposition hcell, htake, ⟨column, hcell, hempty⟩,
    fun j hj => List.getElem?_set_ne (Ne.symm hj), hnames, get?_of_cell hagain hempty, ?_⟩
  rw [take?_of_cell hagain hempty, List.set_set]

/-- A name that stands for no cell is neither read nor taken. -/
theorem get?_take?_eq_none_iff (r : Row) (name : String) :
    (r.get? name = none ↔ r.position? name = none) ∧
    (r.take? name = none ↔ r.position? name = none) := by
  cases hposition : r.position? name with
  | none => simp [get?, take?, hposition]
  | some i =>
    obtain ⟨value, after, htaken⟩ := (position?_eq_some_iff.1 hposition).taken
    simp [htaken.get?_eq, htaken.take?_eq]

/-- Reading a name and taking its value go to the same cell, and find nothing where
the name stands for none. -/
structure ReadsOneCell (r : Row) (name : String) : Prop where
  exists_iff : (∃ i, r.Addresses name i) ↔ ∃ other ∈ r.names, other.toLower = name.toLower
  get?_eq_none_iff : r.get? name = none ↔ ∀ i, ¬r.Addresses name i
  take?_eq_none_iff : r.take? name = none ↔ ∀ i, ¬r.Addresses name i
  taken : ∀ i, r.Addresses name i → ∃ value after, r.Taken name i value after

theorem readsOneCell (r : Row) (name : String) : r.ReadsOneCell name := by
  obtain ⟨hget, htake⟩ := r.get?_take?_eq_none_iff name
  rw [position?_eq_none_iff_forall] at hget htake
  exact ⟨exists_addresses_iff, hget, htake, fun i h => h.taken⟩

theorem exists_get?_iff (r : Row) (name : String) :
    (∃ value, r.get? name = some value) ↔ ∃ i, r.Addresses name i := by
  rw [← Option.ne_none_iff_exists', Ne, (r.readsOneCell name).get?_eq_none_iff, not_forall]
  exact exists_congr fun i => not_not

/-! ## 3. Runs -/

/-- One change of a row: a cell is added, or a value is taken out and dropped. -/
inductive Step
  | push (column : String) (value : Value)
  | take (column : String)

namespace Step

/-- The row after a change. A name that stands for no cell changes nothing. -/
def apply (r : Row) : Step → Row
  | .push column value => r.push column value
  | .take column =>
    match r.take? column with
    | some (_, after) => after
    | none => r

/-- The cell that a change adds. -/
def pushed? : Step → Option (String × Value)
  | .push column value => some (column, value)
  | .take _ => none

end Step

/-- The row after a run of changes. -/
def ofSteps (steps : List Step) : Row :=
  steps.foldl Step.apply .empty

/-- The row after a run, seen from its end. -/
theorem ofSteps_concat (steps : List Step) (s : Step) :
    ofSteps (steps ++ [s]) = s.apply (ofSteps steps) := by
  simp [ofSteps]

/-- What a row holds that was built by adding these cells: each of them in its place,
with its name, and with the value it was added with or null, once that was taken. -/
structure BuiltBy (r : Row) (added : List (String × Value)) : Prop where
  size : r.size = added.length
  cell : ∀ (i : Nat) (cell : String × Value), added[i]? = some cell →
    r.cells[i]? = some cell ∨ r.cells[i]? = some (cell.1, .null)

namespace BuiltBy

variable {added : List (String × Value)}

/-- No change has moved or dropped a name. -/
theorem names_eq (h : r.BuiltBy added) : r.names = added.map Prod.fst := by
  apply List.ext_getElem?
  intro i
  rw [names, List.getElem?_map, List.getElem?_map]
  cases hadded : added[i]? with
  | none =>
    have hi : r.cells.length ≤ i := by
      rw [show r.cells.length = added.length from h.size]
      exact List.getElem?_eq_none_iff.1 hadded
    rw [List.getElem?_eq_none_iff.2 hi]
  | some cell =>
    rcases h.cell i cell hadded with hcell | hcell
    · rw [hcell]
    · rw [hcell]
      rfl

theorem push (h : r.BuiltBy added) (column : String) (value : Value) :
    (r.push column value).BuiltBy (added ++ [(column, value)]) := by
  have hsize : r.cells.length = added.length := h.size
  refine ⟨by simp [h.size], fun i cell hcell => ?_⟩
  rw [Row.push]
  rcases Nat.lt_or_ge i added.length with hi | hi
  · rw [List.getElem?_append_left hi] at hcell
    rw [List.getElem?_append_left (hsize ▸ hi)]
    exact h.cell i cell hcell
  · rw [List.getElem?_append_right hi] at hcell
    rw [List.getElem?_append_right (hsize ▸ hi), hsize]
    exact .inl hcell

theorem take (h : r.BuiltBy added) {value : Value} {after : Row}
    (htaken : r.Taken name i value after) : after.BuiltBy added := by
  have hsize : after.size = r.size := by
    simpa [Row.names, Row.size] using congrArg List.length htaken.names
  refine ⟨hsize.trans h.size, fun j cell hcell => ?_⟩
  by_cases hj : j = i
  · subst hj
    obtain ⟨column, hbefore, hafter⟩ := htaken.cell
    have hname : column = cell.1 := by
      rcases h.cell j cell hcell with hcell | hcell <;>
      · rw [hbefore, Option.some.injEq] at hcell
        exact congrArg Prod.fst hcell
    exact .inr (hname ▸ hafter)
  · rw [htaken.others j hj]
    exact h.cell j cell hcell

/-- One more change. -/
theorem apply (h : r.BuiltBy added) (s : Step) :
    (s.apply r).BuiltBy (added ++ s.pushed?.toList) := by
  cases s with
  | push column value => exact h.push column value
  | take column =>
    rw [Step.pushed?, Option.toList_none, List.append_nil, Step.apply]
    cases hposition : r.position? column with
    | none => rwa [(r.get?_take?_eq_none_iff column).2.2 hposition]
    | some i =>
      obtain ⟨value, after, htaken⟩ := (position?_eq_some_iff.1 hposition).taken
      rw [htaken.take?_eq]
      exact h.take htaken

end BuiltBy

/-- **What a row holds after a run of changes.** -/
theorem builtBy_ofSteps (steps : List Step) :
    (ofSteps steps).BuiltBy (steps.filterMap Step.pushed?) := by
  induction steps using List.reverseRecOn with
  | nil => exact ⟨rfl, fun i cell hcell => by simp at hcell⟩
  | append_singleton steps s ih =>
    rw [ofSteps_concat, List.filterMap_append]
    have hlast : [s].filterMap Step.pushed? = s.pushed?.toList := by
      cases h : s.pushed? <;> simp [h]
    rw [hlast]
    exact ih.apply s

end Row

/-! ## 4. A column of rows -/

namespace Output

variable {name : String}

theorem takeColumn_eq_ok_iff {row : Row} {value : Value} :
    (∃ after, takeColumn row name = .ok (value, after)) ↔ row.get? name = some value := by
  have htake := row.take?_eq_addressed? name
  rw [← row.get?_eq_addressed? name] at htake
  rw [← htake, takeColumn, Option.map_eq_some_iff]
  cases row.take? name with
  | none => simp
  | some taken => simp [Prod.ext_iff, eq_comm]

/-- Rows have a column where each of them has a value under its name, and then it
has these values, row by row. -/
theorem columnValues_eq_ok_iff : ∀ {rows : List Row} {values : List Value},
    columnValues name rows = .ok values ↔
      List.Forall₂ (fun row value => row.get? name = some value) rows values
  | [], values => by
      rw [columnValues, List.forall₂_nil_left_iff, Except.ok.injEq]
      exact eq_comm
  | row :: rest, values => by
      rw [columnValues, bind_eq_ok_iff, List.forall₂_cons_left_iff]
      simp only [bind_eq_ok_iff, columnValues_eq_ok_iff, Except.ok.injEq, Prod.exists,
        ← takeColumn_eq_ok_iff]
      constructor
      · rintro ⟨value, after, hvalue, others, hothers, rfl⟩
        exact ⟨value, others, ⟨after, hvalue⟩, hothers, rfl⟩
      · rintro ⟨value, others, ⟨after, hvalue⟩, hothers, rfl⟩
        exact ⟨value, after, hvalue, others, hothers, rfl⟩

theorem exists_columnValues_iff {rows : List Row} :
    (∃ values, columnValues name rows = .ok values) ↔
      ∀ row ∈ rows, ∃ value, row.get? name = some value := by
  simp only [columnValues_eq_ok_iff]
  induction rows with
  | nil => simp
  | cons row rest ih =>
    rw [List.forall_mem_cons, ← ih]
    constructor
    · rintro ⟨values, h⟩
      cases h with
      | cons hvalue hvalues => exact ⟨⟨_, hvalue⟩, _, hvalues⟩
    · rintro ⟨⟨value, hvalue⟩, values, hvalues⟩
      exact ⟨value :: values, .cons hvalue hvalues⟩

end Output

namespace Row

/-- **Which cell a name stands for, over every run of additions and takings.** A run
keeps all names that were added, in order. A name stands for a cell where some name
is the same in small letters, and both readings agree on the cell. Rows have a
column where the name stands for a cell of each of them, and it has one value for
each row. -/
theorem cells_over_runs (steps : List Step) (name : String) (rows : List Row) :
    (ofSteps steps).BuiltBy (steps.filterMap Step.pushed?) ∧
    (ofSteps steps).names = (steps.filterMap Step.pushed?).map Prod.fst ∧
    (ofSteps steps).ReadsOneCell name ∧
    ((∃ out, Output.ofRows rows (.column name) = .ok out) ↔
      ∀ row ∈ rows, ∃ i, row.Addresses name i) ∧
    (∀ out, Output.ofRows rows (.column name) = .ok out ↔ ∃ values, out = .column values ∧
      List.Forall₂ (fun row value => row.get? name = some value) rows values) ∧
    ∀ e, Output.ofRows rows (.column name) = .error e → e = .missingColumn name := by
  have hbuilt := builtBy_ofSteps steps
  refine ⟨hbuilt, hbuilt.names_eq, readsOneCell _ name, ?_, fun out => ?_,
    fun e he => Output.columnValues_error (map_eq_error_iff.1 he)⟩
  · simp only [← exists_get?_iff, ← Output.exists_columnValues_iff, Output.ofRows, map_eq_ok_iff]
    constructor
    · rintro ⟨out, values, hvalues, -⟩
      exact ⟨values, hvalues⟩
    · rintro ⟨values, hvalues⟩
      exact ⟨_, values, hvalues, rfl⟩
  · simp only [← Output.columnValues_eq_ok_iff, Output.ofRows, map_eq_ok_iff]
    exact exists_congr fun values => and_comm.trans (and_congr_left' eq_comm)

/-- Three names that differ in case, two of them emptied: the third is read by its own
name, a fourth spelling finds the first cell, which is empty and not missing, and a
column of rows may come of cells under two spellings. -/
theorem cells_over_runs_of_spellings :
    let steps : List Step := [.push "ID" (.int 1), .push "id" (.text "a"), .take "iD",
      .push "Id" (.int 7), .take "id"]
    let rows : List Row := [⟨[("ID", .int 1)]⟩, ⟨[("name", .null), ("id", .text "a")]⟩]
    ((ofSteps steps).Addresses "Id" 2 ∧
      ∃ after, (ofSteps steps).Taken "Id" 2 (.int 7) after) ∧
    ((ofSteps steps).Addresses "iD" 0 ∧ ∃ after, (ofSteps steps).Taken "iD" 0 .null after) ∧
    Output.ofRows rows (.column "Id") = .ok (.column [.int 1, .text "a"]) ∧
    Output.ofRows (⟨[("no", .int 1)]⟩ :: rows) (.column "Id")
      = .error (.missingColumn "Id") := by
  intro steps rows
  have htaken : ∀ name i value, (ofSteps steps).position? name = some i →
      (ofSteps steps).get? name = some value →
      (ofSteps steps).Addresses name i ∧ ∃ after, (ofSteps steps).Taken name i value after := by
    intro name i value hposition hget
    have haddresses := position?_eq_some_iff.1 hposition
    obtain ⟨-, -, hreads, -⟩ := cells_over_runs steps name rows
    obtain ⟨other, after, h⟩ := hreads.taken i haddresses
    obtain rfl : value = other := Option.some.inj (hget.symm.trans h.get?_eq)
    exact ⟨haddresses, after, h⟩
  obtain ⟨-, -, -, -, hcolumn, -⟩ := cells_over_runs steps "Id" rows
  exact ⟨htaken "Id" 2 _ (by decide +kernel) (by decide +kernel),
    htaken "iD" 0 _ (by decide +kernel) (by decide +kernel),
    (hcolumn _).2 ⟨_, rfl, .cons (by decide +kernel) (.cons (by decide +kernel) .nil)⟩,
    by decide +kernel⟩

end Row

end SearchSql
