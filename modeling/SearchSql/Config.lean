/-
SearchSql.Config — the configuration of builders and of watched transports.

A configuration is a TOML document with two sections. A document names only
what it wants to change, and keys that mean nothing are passed over.
-/
import SearchSql.Execution.Settings
import SearchSql.Json.Text
import SearchSql.Options
import SearchSql.Toml.Reader

namespace SearchSql

open SearchSql.Number

/-- A configuration. -/
structure Config where
  paging : Paging
  settings : Settings
deriving DecidableEq, Repr

/-- Paging as JSON text. -/
def Paging.json (p : Paging) : String :=
  Json.object
    [("offset", natText p.offset.toNat), ("limit", natText p.limit.toNat),
      ("max_matches", natText p.maxMatches.toNat)]

namespace Config

/-- The configuration of an empty document. -/
def standard : Config := ⟨.standard, .standard⟩

/-! ## 1. Values -/

/-- A natural number below 2⁶⁴. -/
def nat? : Toml.Value → Option Nat
  | .integer (some n) => if 0 ≤ n ∧ n < Int.pow 2 64 then some n.toNat else none
  | _ => none

def bool? : Toml.Value → Option Bool
  | .boolean b => some b
  | _ => none

/-! ## 2. Sections -/

/-- The keys of a section, in order, each with what its value changes. -/
abbrev Keys (α : Type) := List (String × (Toml.Value → α → Option α))

/-- Paging. -/
def pagingKeys : Keys Paging :=
  [("offset", fun v p => (nat? v).map fun n => { p with offset := UInt64.ofNat n }),
    ("limit", fun v p => (nat? v).map fun n => { p with limit := UInt64.ofNat n }),
    ("max_matches", fun v p => (nat? v).map fun n => { p with maxMatches := UInt64.ofNat n })]

/-- Watching. -/
def settingsKeys : Keys Settings :=
  [("enabled", fun v s => (bool? v).map fun b => { s with enabled := b }),
    ("record_stats", fun v s => (bool? v).map fun b => { s with record := b }),
    ("stats_capacity", fun v s => (nat? v).map fun n => { s with capacity := n }),
    ("slow_query_threshold_ms", fun v s =>
      (nat? v).map fun n => { s with slowThreshold := some (.ofMillis n) }),
    ("max_sql_length", fun v s => (nat? v).map fun n => { s with maxSqlLength := some n })]

/-- Reads the entries of a section. A key that means nothing needs a value that
may be ignored. -/
def readEntries (keys : Keys α) : List (String × Toml.Value) → α → Option α
  | [], a => some a
  | (key, v) :: rest, a => do
    match keys.lookup key with
    | some set =>
      let a ← set v a
      readEntries keys rest a
    | none => if v.isIgnorable then readEntries keys rest a else none

/-- Reads values in the order of the keys. Values beyond the last key do not
matter. -/
def readElements (keys : Keys α) : List Toml.Value → α → Option α
  | [], a => some a
  | v :: vs, a =>
    match keys with
    | [] => some a
    | (_, set) :: keys => do
      let a ← set v a
      readElements keys vs a

/-- Reads a section: a table of keys, or an array of values in the order of the
keys. A date has no keys that mean anything. -/
def readSection (keys : Keys α) (v : Toml.Value) (a : α) : Option α :=
  match v with
  | .table _ entries => readEntries keys entries a
  | .array _ elements => readElements keys elements a
  | .moment => some a
  | _ => none

/-! ## 3. Documents -/

/-- The sections of a document. -/
def sections : Keys Config :=
  [("defaults", fun v c => (readSection pagingKeys v c.paging).map fun p => { c with paging := p }),
    ("monitor", fun v c =>
      (readSection settingsKeys v c.settings).map fun s => { c with settings := s })]

/-- Reads a configuration from a document. -/
def ofToml (s : String) : Except Error Config :=
  match Toml.read? s with
  | some t =>
    match readEntries sections t.entries standard with
    | some c => .ok c
    | none => .error .malformedConfig
  | none => .error .malformedConfig

/-- Reads a configuration from a file. `view` gives the content of a file, or
why it cannot be read. -/
def load (view : String → Except String String) (path : String) : Except Error Config :=
  match view path with
  | .ok content => ofToml content
  | .error reason =>
    .error (.unreadableConfig ("failed to read " ++ path ++ ": " ++ reason))

end Config

end SearchSql
