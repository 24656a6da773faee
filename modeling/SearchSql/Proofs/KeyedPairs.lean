/-
SearchSql.Proofs.KeyedPairs — rows as a mapping from one column to another.

The rows are read in one pass. Each row puts the value of one of its cells under the
text of another, and a key that was put before keeps its place and gets the new
value. Both columns may be the same cell, because the key is read before the value
is taken out of the row.

* `Row.addressed?` — the cell that a name stands for; reading it and taking its value
  both find this one (`Row.get?_eq_addressed?`, `Row.take?_eq_addressed?`).
* `Output.keyed_of_keyedValues` — what the mapping of rows holds, by one step for
  each row.
* `Output.pairs_of_rows` — which rows have a mapping, and which row and column an
  error names.
-/
import Mathlib.Data.List.Induction
import SearchSql.Output
import SearchSql.Proofs.CheckedNames
import SearchSql.Proofs.RepeatedNames

namespace SearchSql

open SearchSql.Text

/-! ## 1. Cells -/

namespace Row

/-- The value of the first cell that has exactly this name, or else of the first one
whose name differs in the case of ASCII letters only. -/
def addressed? (r : Row) (name : String) : Option Value :=
  ((r.cells.find? fun cell => cell.1 == name).or
    (r.cells.find? fun cell => sameFolded cell.1.toList name.toList)).map Prod.snd

theorem cell_at_position? (r : Row) (name : String) :
    ((r.position? name).bind fun i => r.cells[i]?) =
      (r.cells.find? fun cell => cell.1 == name).or
        (r.cells.find? fun cell => sameFolded cell.1.toList name.toList) := by
  rw [List.find?_eq_bind_findIdx?_getElem?, List.find?_eq_bind_findIdx?_getElem?, position?]
  cases h : r.cells.findIdx? (fun cell => cell.1 == name) with
  | none => rfl
  | some i =>
    obtain ⟨hi, -⟩ := List.findIdx?_eq_some_iff_findIdx_eq.1 h
    simp [List.getElem?_eq_getElem hi]

/-- Looking a name up finds the cell that it stands for. -/
theorem get?_eq_addressed? (r : Row) (name : String) : r.get? name = r.addressed? name := by
  rw [addressed?, ← cell_at_position?, Option.map_bind, get?_eq_map]
  rfl

/-- Taking a name out of a row takes the value of the same cell. -/
theorem take?_eq_addressed? (r : Row) (name : String) :
    (r.take? name).map Prod.fst = r.addressed? name := by
  rw [addressed?, ← cell_at_position?, take?]
  cases hposition : r.position? name with
  | none => rfl
  | some i => cases hcell : r.cells[i]? <;> simp [hcell]

/-- The text under which a row puts a value: that of its cell for the key. -/
def keyText? (r : Row) (key : String) : Option String :=
  (r.addressed? key).map Value.display

/-- The column that a row lacks: the key, or else the value. -/
def lacking? (r : Row) (key value : String) : Option String :=
  if r.addressed? key = none then some key
  else if r.addressed? value = none then some value
  else none

theorem lacking?_eq_none_iff {r : Row} {key value : String} :
    r.lacking? key value = none ↔
      (r.addressed? key).isSome = true ∧ (r.addressed? value).isSome = true := by
  rw [lacking?]
  cases r.addressed? key <;> cases r.addressed? value <;> simp

theorem exists_of_lacking?_eq_none {r : Row} {key value : String}
    (h : r.lacking? key value = none) :
    ∃ k v, r.addressed? key = some k ∧ r.addressed? value = some v := by
  obtain ⟨hk, hv⟩ := lacking?_eq_none_iff.1 h
  obtain ⟨k, hk⟩ := Option.isSome_iff_exists.1 hk
  obtain ⟨v, hv⟩ := Option.isSome_iff_exists.1 hv
  exact ⟨k, v, hk, hv⟩

end Row

namespace Output

/-! ## 2. One row -/

/-- Putting a value under a key changes what is found for this key alone. -/
theorem lookup_insert (key : String) (value : Value) (entries : List (String × Value))
    (other : String) :
    (insert key value entries).lookup other =
      if other = key then some value else entries.lookup other := by
  have hbeq : ∀ {a b : String}, a ≠ b → (a == b) = false := fun h => by simpa using h
  induction entries with
  | nil =>
    by_cases h : other = key
    · simp [insert, h]
    · simp [insert, List.lookup_cons, h, hbeq h]
  | cons entry rest ih =>
    obtain ⟨name, kept⟩ := entry
    by_cases hname : key = name
    · subst hname
      by_cases h : other = key
      · simp [insert, h]
      · simp [insert, List.lookup_cons, h, hbeq h]
    · rw [insert, if_neg hname, List.lookup_cons, List.lookup_cons, ih]
      by_cases h : other = key
      · subst h
        simp [hbeq hname]
      · simp [h]

variable {key value : String} {found : List (String × Value)} {row : Row} {rest : List Row}

/-- A row with both columns puts one value under one key. -/
theorem keyedValues_cons {k v : Value} (hk : row.addressed? key = some k)
    (hv : row.addressed? value = some v) :
    keyedValues key value found (row :: rest)
      = keyedValues key value (insert k.display v found) rest := by
  have htake := row.take?_eq_addressed? value
  rw [hv, Option.map_eq_some_iff] at htake
  obtain ⟨⟨v', after⟩, htake, rfl⟩ := htake
  rw [keyedValues, Row.get, row.get?_eq_addressed?, hk, takeColumn, htake]
  rfl

/-- A row that lacks a column ends the pass. -/
theorem keyedValues_cons_of_lacking {column : String}
    (h : row.lacking? key value = some column) :
    keyedValues key value found (row :: rest) = .error (.missingColumn column) := by
  rw [Row.lacking?] at h
  rw [keyedValues, Row.get, row.get?_eq_addressed?]
  split at h
  · next hk =>
    cases h
    rw [hk]
    rfl
  · next hk =>
    obtain ⟨k, hk⟩ := Option.ne_none_iff_exists'.1 hk
    split at h
    · next hv =>
      cases h
      have htake := row.take?_eq_addressed? value
      rw [hv, Option.map_eq_none_iff] at htake
      rw [hk, takeColumn, htake]
      rfl
    · cases h

/-! ## 3. All rows -/

/-- A pass over more rows goes on from what was found. -/
theorem keyedValues_append (key value : String) (found : List (String × Value))
    (rows more : List Row) :
    keyedValues key value found (rows ++ more)
      = keyedValues key value found rows >>= fun found => keyedValues key value found more := by
  induction rows generalizing found with
  | nil => rfl
  | cons row rest ih =>
    rw [List.cons_append]
    cases h : row.lacking? key value with
    | some column =>
      rw [keyedValues_cons_of_lacking h, keyedValues_cons_of_lacking h]
      rfl
    | none =>
      obtain ⟨k, v, hk, hv⟩ := Row.exists_of_lacking?_eq_none h
      rw [keyedValues_cons hk hv, keyedValues_cons hk hv, ih]

/-- The first row that lacks a column decides the error. -/
theorem keyedValues_eq_error_iff {e : Error} {rows : List Row} :
    keyedValues key value found rows = .error e ↔
      ∃ column, rows.findSome? (·.lacking? key value) = some column ∧
        e = .missingColumn column := by
  induction rows generalizing found with
  | nil => simp [keyedValues]
  | cons row rest ih =>
    rw [List.findSome?_cons]
    cases h : row.lacking? key value with
    | some column =>
      rw [keyedValues_cons_of_lacking h]
      constructor
      · intro he
        cases he
        exact ⟨column, rfl, rfl⟩
      · rintro ⟨other, hother, rfl⟩
        cases hother
        rfl
    | none =>
      obtain ⟨k, v, hk, hv⟩ := Row.exists_of_lacking?_eq_none h
      rw [keyedValues_cons hk hv, ih]

theorem eraseDups_concat (keys : List String) (key : String) :
    (keys ++ [key]).eraseDups
      = if key ∈ keys then keys.eraseDups else keys.eraseDups ++ [key] := by
  rw [List.eraseDups_append]
  by_cases h : key ∈ keys <;> simp [List.removeAll, h, List.eraseDups_cons]

/-- A mapping of rows: the texts of their keys in the order in which they first
occur, each with the value of the last row that has it. -/
structure Keyed (key value : String) (rows : List Row) (pairs : List (String × Value)) :
    Prop where
  keys : pairs.map Prod.fst = (rows.filterMap (·.keyText? key)).eraseDups
  nodup : (pairs.map Prod.fst).Nodup
  lookup : ∀ k, pairs.lookup k =
    (rows.reverse.find? fun row => row.keyText? key == some k).bind (·.addressed? value)

/-- One more row at the end. -/
theorem Keyed.insert {rows : List Row} {pairs : List (String × Value)}
    (h : Keyed key value rows pairs) {k v : Value} (hk : row.addressed? key = some k)
    (hv : row.addressed? value = some v) :
    Keyed key value (rows ++ [row]) (insert k.display v pairs) := by
  have htext : row.keyText? key = some k.display := by rw [Row.keyText?, hk, Option.map_some]
  have hmem : k.display ∈ pairs.map Prod.fst ↔ k.display ∈ rows.filterMap (·.keyText? key) := by
    rw [h.keys, List.mem_eraseDups]
  refine ⟨?_, ?_, fun other => ?_⟩
  · have hlast : [row].filterMap (·.keyText? key) = [k.display] := by simp [htext]
    rw [keys_insert, List.filterMap_append, hlast, eraseDups_concat, ← h.keys]
    exact if_congr hmem rfl rfl
  · rw [keys_insert]
    split
    · exact h.nodup
    · next hnew =>
      refine List.nodup_append.2 ⟨h.nodup, by simp, fun a ha b hb => ?_⟩
      rw [List.mem_singleton.1 hb]
      rintro rfl
      exact hnew ha
  · rw [lookup_insert, h.lookup, List.reverse_append, List.reverse_singleton,
      List.singleton_append, List.find?_cons, htext]
    by_cases hother : other = k.display
    · subst hother
      simp [hv]
    · have hne : (some k.display == some other) = false := by simpa using Ne.symm hother
      rw [if_neg hother, hne]

/-- **The mapping that comes of rows**, row by row from the right end. -/
theorem keyed_of_keyedValues {rows : List Row} {pairs : List (String × Value)}
    (h : keyedValues key value [] rows = .ok pairs) : Keyed key value rows pairs := by
  induction rows using List.reverseRecOn generalizing pairs with
  | nil =>
    cases h
    exact ⟨rfl, List.nodup_nil, fun k => rfl⟩
  | append_singleton rows row ih =>
    rw [keyedValues_append, bind_eq_ok_iff] at h
    obtain ⟨before, hbefore, h⟩ := h
    cases hlack : row.lacking? key value with
    | some column =>
      rw [keyedValues_cons_of_lacking hlack] at h
      cases h
    | none =>
      obtain ⟨k, v, hk, hv⟩ := Row.exists_of_lacking?_eq_none hlack
      rw [keyedValues_cons hk hv] at h
      cases h
      exact (ih hbefore).insert hk hv

/-- **Rows have a mapping where each of them has both columns**, and it holds their
keys in order of first occurrence with the values of the last rows. Otherwise the
error names the column that the first incomplete row lacks. -/
theorem pairs_of_rows (key value : String) (rows : List Row) :
    ((∃ out, ofRows rows (.pairs key value) = .ok out) ↔
      ∀ row ∈ rows, (row.addressed? key).isSome ∧ (row.addressed? value).isSome) ∧
    (∀ out, ofRows rows (.pairs key value) = .ok out →
      ∃ pairs, out = .pairs pairs ∧ Keyed key value rows pairs) ∧
    ∀ e, ofRows rows (.pairs key value) = .error e ↔
      ∃ column, rows.findSome? (·.lacking? key value) = some column ∧
        e = .missingColumn column := by
  refine ⟨?_, ?_, ?_⟩
  · have hcomplete : (∀ row ∈ rows, (row.addressed? key).isSome ∧ (row.addressed? value).isSome) ↔
        rows.findSome? (·.lacking? key value) = none := by
      rw [List.findSome?_eq_none_iff]
      exact forall₂_congr fun row _ => Row.lacking?_eq_none_iff.symm
    rw [hcomplete]
    cases h : keyedValues key value [] rows with
    | ok pairs =>
      have hnone : rows.findSome? (·.lacking? key value) = none := by
        by_contra hsome
        obtain ⟨column, hcolumn⟩ := Option.ne_none_iff_exists'.1 hsome
        have herror : keyedValues key value [] rows = .error (.missingColumn column) :=
          keyedValues_eq_error_iff.2 ⟨column, hcolumn, rfl⟩
        rw [h] at herror
        cases herror
      simp [ofRows, h, hnone, Except.map]
    | error e =>
      obtain ⟨column, hcolumn, -⟩ := keyedValues_eq_error_iff.1 h
      simp [ofRows, h, hcolumn, Except.map]
  · intro out h
    rw [ofRows, map_eq_ok_iff] at h
    obtain ⟨pairs, hpairs, rfl⟩ := h
    exact ⟨pairs, rfl, keyed_of_keyedValues hpairs⟩
  · intro e
    rw [ofRows, map_eq_error_iff, keyedValues_eq_error_iff]

/-- A key that comes once as an integer and once as a text, names in other case, and
one cell for both columns; a row without a name has no mapping. -/
theorem pairs_of_rows_repeated :
    let rows : List Row := [⟨[("id", .int 1), ("Name", .text "a")]⟩,
      ⟨[("ID", .int 2), ("name", .null), ("id", .text "x")]⟩,
      ⟨[("NAME", .text "c"), ("Id", .text "1")]⟩]
    (∃ pairs, ofRows rows (.pairs "id" "name") = .ok (.pairs pairs) ∧
      pairs.map Prod.fst = ["1", "x"] ∧ pairs.lookup "1" = some (.text "c")) ∧
    (∃ pairs, ofRows rows (.pairs "id" "Id") = .ok (.pairs pairs) ∧
      pairs.map Prod.fst = ["1", "x"] ∧ pairs.lookup "1" = some (.text "1")) ∧
    ofRows (rows ++ [⟨[("id", .int 1)]⟩]) (.pairs "id" "name")
      = .error (.missingColumn "name") := by
  intro rows
  have hkeyed : ∀ value, (∀ row ∈ rows, (row.addressed? "id").isSome ∧
      (row.addressed? value).isSome) →
      ∃ pairs, ofRows rows (.pairs "id" value) = .ok (.pairs pairs) ∧
        Keyed "id" value rows pairs := by
    intro value hcomplete
    obtain ⟨hiff, hok, -⟩ := pairs_of_rows "id" value rows
    obtain ⟨out, hout⟩ := hiff.2 hcomplete
    obtain ⟨pairs, rfl, hpairs⟩ := hok out hout
    exact ⟨pairs, hout, hpairs⟩
  obtain ⟨pairs, hout, hpairs⟩ := hkeyed "name" (by decide +kernel)
  obtain ⟨same, hsame, hcells⟩ := hkeyed "Id" (by decide +kernel)
  refine ⟨⟨pairs, hout, hpairs.keys.trans (by decide +kernel),
    (hpairs.lookup "1").trans (by decide +kernel)⟩, ⟨same, hsame,
    hcells.keys.trans (by decide +kernel), (hcells.lookup "1").trans (by decide +kernel)⟩, ?_⟩
  exact ((pairs_of_rows "id" "name" _).2.2 _).2 ⟨"name", by decide +kernel, rfl⟩

end Output

end SearchSql
