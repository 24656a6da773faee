/-
SearchSql.Toml.Reader — a TOML document read into a table.

A document is a sequence of lines. A line sets a key in the current table, or
opens a table by its header, or is blank. Arrays and inline tables may hold
further ones, to a limited depth, and may go over several lines.
-/
import SearchSql.Toml.Scalar
import SearchSql.Toml.Text

namespace SearchSql.Toml

open SearchSql.Text

/-- How many arrays and inline tables may lie inside one another. -/
def maxDepth : Nat := 80

/-! ## 1. Values -/

mutual

/-- Reads a value. `depth` brackets may still be opened; `fuel` is more than
the length of the text. -/
def readValue (depth : Nat) : (fuel : Nat) → List Char → Option (Value × List Char)
  | 0, _ => none
  | fuel + 1, cs =>
    match cs with
    | '"' :: rest =>
      (readString '"' true rest).map fun (s, rest) => (.text (String.ofList s), rest)
    | '\'' :: rest =>
      (readString '\'' false rest).map fun (s, rest) => (.text (String.ofList s), rest)
    | '[' :: rest =>
      if depth = 0 then none
      else
        (readElements (depth - 1) fuel rest).map fun (elements, rest) =>
          (.array false elements, rest)
    | '\x7b' :: rest =>
      if depth = 0 then none
      else
        (readMembers (depth - 1) fuel (.empty .inline) rest).map fun (t, rest) =>
          (t.value, rest)
    | _ => readScalar cs

/-- Reads the elements of an array up to its closing bracket. A comma may stand
before the bracket. -/
def readElements (depth : Nat) : (fuel : Nat) → List Char → Option (List Value × List Char)
  | 0, _ => none
  | fuel + 1, cs =>
    match skipBlank cs with
    | ']' :: rest => some ([], rest)
    | rest => do
      let (v, rest) ← readValue depth fuel rest
      match skipBlank rest with
      | ']' :: rest => return ([v], rest)
      | ',' :: rest =>
        let (vs, rest) ← readElements depth fuel rest
        return (v :: vs, rest)
      | _ => none

/-- Reads the entries of an inline table up to its closing brace. A comma may
stand before the brace, and an entry may go over several lines around its equals
sign. -/
def readMembers (depth : Nat) :
    (fuel : Nat) → Table → List Char → Option (Table × List Char)
  | 0, _, _ => none
  | fuel + 1, t, cs =>
    match skipBlank cs with
    | '\x7d' :: rest => some (t, rest)
    | rest => do
      let ((path, key), rest) ← readPath rest
      let rest ← takeChar? '=' (skipBlank rest)
      let (v, rest) ← readValue depth fuel (skipBlank rest)
      let t ← t.assign path key v
      match skipBlank rest with
      | '\x7d' :: rest => return (t, rest)
      | ',' :: rest => readMembers depth fuel t rest
      | _ => none

end

/-! ## 2. Lines -/

/-- A line of a document. -/
inductive Line
  | blank
  /-- Sets a key in the current table. -/
  | assign (path : List String) (key : String) (v : Value)
  /-- Opens a table. -/
  | table (path : List String) (key : String)
  /-- Opens one more table of an array of tables. -/
  | element (path : List String) (key : String)

/-- Reads a line's content and gives what follows it on the line. -/
def readContent (cs : List Char) : Option (Line × List Char) :=
  match skipSpaces cs with
  | '[' :: '[' :: rest => do
    let ((path, key), rest) ← readPath rest
    let rest ← after? [']', ']'] rest
    return (.element path key, rest)
  | '[' :: rest => do
    let ((path, key), rest) ← readPath rest
    let rest ← takeChar? ']' rest
    return (.table path key, rest)
  | [] => some (.blank, [])
  | c :: rest =>
    if c = '#' ∨ c = '\n' ∨ c = '\r' then some (.blank, c :: rest)
    else do
      let ((path, key), rest) ← readPath (c :: rest)
      let rest ← takeChar? '=' rest
      let rest := skipSpaces rest
      let (v, rest) ← readValue maxDepth (rest.length + 1) rest
      return (.assign path key v, rest)

/-- Reads the lines of a document, at most `fuel` of them. -/
def readLines : (fuel : Nat) → List Char → Option (List Line)
  | _, [] => some []
  | 0, _ => none
  | fuel + 1, cs => do
    let (line, rest) ← readContent cs
    let rest ← endLine rest
    let lines ← readLines fuel rest
    return line :: lines

/-! ## 3. Documents -/

/-- A document being built: what there is so far, and the way to the current
table. -/
structure Draft where
  root : Table
  current : List String

/-- A document with one more line. -/
def Draft.add (d : Draft) : Line → Option Draft
  | .blank => some d
  | .assign path key v => do
    let root ← d.root.change false (Table.assign path key v) d.current
    return { d with root := root }
  | .table path key => do
    let root ← d.root.openTable path key
    return ⟨root, path ++ [key]⟩
  | .element path key => do
    let root ← d.root.openElement path key
    return ⟨root, path ++ [key]⟩

/-- Adds lines to a document in order. -/
def Draft.addAll (d : Draft) : List Line → Option Draft
  | [] => some d
  | line :: rest => do
    let d ← d.add line
    d.addAll rest

/-- The table of a document. A mark of the byte order at the very start does
not count. -/
def read? (s : String) : Option Table := do
  let cs := match s.toList with
    | '\uFEFF' :: rest => rest
    | cs => cs
  let lines ← readLines (cs.length + 1) cs
  let d ← Draft.addAll ⟨.empty .header, []⟩ lines
  return d.root

end SearchSql.Toml
