/-
SearchSql.Proofs.RowDocuments — rows that are read by way of a document.

A row is written as an object and the object is read as a mapping of values. The
document forgets which kinds the values were of, and several cells of one name have
one place in it. Nothing else is lost: of each kind, the readings that are tried
earlier refuse what was written, and a name keeps the value of its last cell.

* `Row.InOrder` — mappings in the order of their names, and what putting a value does
  to one.
* `Json.Document.value_ofValue` — a value is read as the kind that it was.
* `Row.mapping_eq_entries` — the way through a document comes to the row as a mapping.
* `Row.mapping_keeps_row` — what the mapping of a row holds.
-/
import Mathlib
import SearchSql.Json.Document
import SearchSql.Proofs.CheckedNames
import SearchSql.Proofs.RepeatedNames

namespace SearchSql

open SearchSql.Number

/-! ## 1. Mappings in order -/

namespace Row

variable {α β : Type} {found : List (String × α)} {name : String}

/-- A mapping in the order of its names, each of them once. -/
def InOrder (found : List (String × α)) : Prop :=
  (found.map Prod.fst).Pairwise (· < ·)

theorem mem_names_put (name other : String) (value : α) (found : List (String × α)) :
    other ∈ (put name value found).map Prod.fst ↔ other = name ∨ other ∈ found.map Prod.fst := by
  induction found with
  | nil => simp [put]
  | cons entry rest ih =>
    obtain ⟨key, kept⟩ := entry
    rw [put]
    split
    · next h =>
      subst h
      simp
    · split
      · simp
      · rw [List.map_cons, List.mem_cons, ih, List.map_cons, List.mem_cons, or_left_comm]

theorem InOrder.put (h : InOrder found) (name : String) (value : α) :
    InOrder (put name value found) := by
  induction found with
  | nil => exact List.pairwise_singleton ..
  | cons entry rest ih =>
    obtain ⟨key, kept⟩ := entry
    obtain ⟨hkey, hrest⟩ := List.pairwise_cons.1 h
    rw [Row.put]
    split
    · next heq =>
      subst heq
      exact h
    · next hne =>
      split
      · next hlt =>
        refine List.pairwise_cons.2 ⟨fun other hother => ?_, h⟩
        rcases List.mem_cons.1 hother with rfl | hother
        · exact hlt
        · exact hlt.trans (hkey other hother)
      · next hnot =>
        refine List.pairwise_cons.2 ⟨fun other hother => ?_, ih hrest⟩
        rcases (mem_names_put name other value rest).1 hother with rfl | hother
        · exact lt_of_le_of_ne (not_lt.1 hnot) (Ne.symm hne)
        · exact hkey other hother

/-- A name behind all others is put behind them. -/
theorem put_of_forall_lt (h : ∀ other ∈ found.map Prod.fst, other < name) (value : α) :
    put name value found = found ++ [(name, value)] := by
  induction found with
  | nil => rfl
  | cons entry rest ih =>
    obtain ⟨key, kept⟩ := entry
    rw [List.map_cons, List.forall_mem_cons] at h
    obtain ⟨hkey, hrest⟩ := h
    rw [put, if_neg hkey.ne', if_neg hkey.asymm, ih hrest]
    rfl

/-- A new name adds one entry. -/
theorem perm_put (h : name ∉ found.map Prod.fst) (value : α) :
    (put name value found).Perm ((name, value) :: found) := by
  induction found with
  | nil => exact List.Perm.refl _
  | cons entry rest ih =>
    obtain ⟨key, kept⟩ := entry
    rw [List.map_cons, List.mem_cons, not_or] at h
    obtain ⟨hkey, hrest⟩ := h
    rw [put, if_neg hkey]
    split
    · exact List.Perm.refl _
    · exact ((ih hrest).cons _).trans (List.Perm.swap ..)

/-- Where a value is put does not depend on the values. -/
theorem put_map (f : α → β) (name : String) (value : α) (found : List (String × α)) :
    put name (f value) (found.map fun entry => (entry.1, f entry.2))
      = (put name value found).map fun entry => (entry.1, f entry.2) := by
  induction found with
  | nil => rfl
  | cons entry rest ih =>
    obtain ⟨key, kept⟩ := entry
    rw [List.map_cons, put, put, ih]
    split
    · rfl
    · split <;> rfl

/-! ## 2. The last cell of each name -/

/-- The last cell of each name, in the order of the names. -/
def latest (r : Row) : List (String × Value) :=
  r.cells.foldl (fun found cell => put cell.1 cell.2 found) []

theorem latest_push (r : Row) (column : String) (value : Value) :
    (r.push column value).latest = put column value r.latest := by
  simp [latest, push]

/-- Values may be changed before they are put or afterwards. -/
theorem foldl_put_map (f : Value → β) (cells : List (String × Value)) :
    cells.foldl (fun found cell => put cell.1 (f cell.2) found) []
      = (Row.latest ⟨cells⟩).map fun entry => (entry.1, f entry.2) := by
  induction cells using List.reverseRecOn with
  | nil => rfl
  | append_singleton cells cell ih =>
    rw [List.foldl_append, ih]
    exact (put_map f cell.1 cell.2 _).trans (by rw [← latest_push]; rfl)

theorem inOrder_latest (r : Row) : InOrder r.latest := by
  induction r using push_induction with
  | start => exact List.Pairwise.nil
  | step r column value ih =>
    rw [latest_push]
    exact ih.put column value

theorem mem_names_latest (r : Row) (name : String) :
    name ∈ r.latest.map Prod.fst ↔ name ∈ r.names := by
  induction r using push_induction with
  | start => rfl
  | step r column value ih =>
    rw [latest_push, mem_names_put, names_push, List.mem_append, List.mem_singleton, ih, or_comm]

/-- Where no name repeats, every cell is the last of its name. -/
theorem perm_latest {r : Row} (h : r.names.Nodup) : r.latest.Perm r.cells := by
  induction r using push_induction with
  | start => exact List.Perm.refl _
  | step r column value ih =>
    rw [names_push, List.nodup_append] at h
    obtain ⟨hr, -, hnew⟩ := h
    have hcolumn : column ∉ r.latest.map Prod.fst := by
      rw [mem_names_latest]
      exact fun hmem => hnew column hmem column (List.mem_singleton.2 rfl) rfl
    rw [latest_push]
    exact ((perm_put hcolumn value).trans ((ih hr).cons _)).trans
      (List.perm_append_singleton (column, value) r.cells).symm

theorem entries_eq (r : Row) :
    r.entries = r.latest.map fun entry => (entry.1, settled entry.2) :=
  foldl_put_map settled r.cells

end Row

/-! ## 3. Documents -/

namespace Json.Document

theorem members_eq (r : Row) :
    members r = r.latest.map fun entry => (entry.1, ofValue entry.2) :=
  Row.foldl_put_map ofValue r.cells

/-- **A value is read as the kind that it was written as**, but for a double that is
not finite. -/
theorem value_ofValue (v : Value) : (ofValue v).value = .ok (Row.settled v) := by
  cases v with
  | null => rfl
  | text s => rfl
  | float x =>
    rw [ofValue, Row.settled]
    split <;> rfl
  | int n =>
    rw [ofValue]
    split
    · rfl
    · next hn =>
      -- The digits are those of a number below 2⁶³, which is read as an integer.
      have hhigh := n.toInt_lt
      have hword : (UInt64.ofNat n.toInt.toNat).toNat = n.toInt.toNat := by
        rw [UInt64.toNat_ofNat']
        omega
      have hsmall : n.toInt.toNat < Nat.pow 2 63 := by
        have hpow : Nat.pow 2 63 = 9223372036854775808 := rfl
        omega
      have hint : int? (natural (UInt64.ofNat n.toInt.toNat)) = some (.int n) := by
        rw [int?, hword, if_pos hsmall, Int.toNat_of_nonneg (not_lt.1 hn), Int64.ofInt_toInt]
      have hnull : null? (natural (UInt64.ofNat n.toInt.toNat)) = none := rfl
      simp only [value, List.findSome?_cons, hnull, hint]
      rfl

/-- Members in order are read one by one, and each comes behind those before it. -/
theorem values_map {found rest : List (String × Value)} (h : Row.InOrder (found ++ rest)) :
    values found (rest.map fun entry => (entry.1, ofValue entry.2))
      = .ok (found ++ rest.map fun entry => (entry.1, Row.settled entry.2)) := by
  induction rest generalizing found with
  | nil => simp [values]
  | cons entry rest ih =>
    obtain ⟨name, v⟩ := entry
    have hbefore : ∀ other ∈ found.map Prod.fst, other < name := by
      intro other hother
      rw [Row.InOrder, List.map_append, List.pairwise_append] at h
      exact h.2.2 other hother name List.mem_cons_self
    have hmore : Row.InOrder ((found ++ [(name, Row.settled v)]) ++ rest) := by
      simpa [Row.InOrder] using h
    rw [List.map_cons, values, value_ofValue]
    show values (Row.put name (Row.settled v) found) _ = _
    rw [Row.put_of_forall_lt hbefore, ih hmore]
    simp

end Json.Document

namespace Row

theorem mapping_eq_entries (r : Row) : r.mapping = .ok r.entries := by
  rw [mapping, Json.Document.members_eq, Json.Document.values_map r.inOrder_latest, entries_eq]
  rfl

/-! ## 4. The mapping of a row -/

/-- **A row that is read by way of a document is never refused, and keeps its names
and the last value of each of them.** The kind of a value is kept with it; only a
double that is not finite is lost, and becomes null. Where no name repeats, the
mapping holds the cells of the row. -/
theorem mapping_keeps_row (r : Row) :
    ∃ found, r.mapping = .ok found ∧ InOrder found ∧
      (∀ name, name ∈ found.map Prod.fst ↔ name ∈ r.names) ∧
      (∀ name, found.lookup name = (r.valuesOf name).getLast?.map settled) ∧
      (r.names.Nodup → found.Perm (r.cells.map fun cell => (cell.1, settled cell.2))) := by
  have hnames : r.entries.map Prod.fst = r.latest.map Prod.fst := by
    rw [entries_eq, List.map_map]
    rfl
  refine ⟨r.entries, r.mapping_eq_entries, ?_, fun name => ?_, lookup_entries r, fun h => ?_⟩
  · rw [InOrder, hnames]
    exact r.inOrder_latest
  · rw [hnames, mem_names_latest]
  · rw [entries_eq]
    exact (perm_latest h).map _

/-- The smallest integer, a whole double, a numeral as a text and an infinity keep
their kinds, but for the infinity; a name that comes again has its later value. -/
theorem mapping_keeps_row_of_kinds :
    let r : Row := ⟨[("n", .int (-9223372036854775808)), ("d", .float ⟨0x4000000000000000⟩),
      ("N", .text "12"), ("i", .float ⟨0x7FF0000000000000⟩)]⟩
    (r.names.Nodup ∧ ∃ found, r.mapping = .ok found ∧
      found.Perm [("n", .int (-9223372036854775808)), ("d", .float ⟨0x4000000000000000⟩),
        ("N", .text "12"), ("i", .null)]) ∧
    ∃ found, (r.push "n" (.text "null")).mapping = .ok found ∧
      found.lookup "n" = some (.text "null") := by
  intro r
  have hnodup : r.names.Nodup := by decide
  obtain ⟨found, hfound, -, -, -, hcells⟩ := mapping_keeps_row r
  obtain ⟨again, hagain, -, -, hlookup, -⟩ := mapping_keeps_row (r.push "n" (.text "null"))
  exact ⟨⟨hnodup, found, hfound, hcells hnodup⟩, again, hagain, (hlookup "n").trans (by decide)⟩

end Row

end SearchSql
