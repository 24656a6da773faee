/-
SearchSql.Json.Text — values and rows as JSON text.

The text is compact. Strings escape quotation marks, backslashes and control
characters and nothing else. A double is written with the shortest digits that
read back, with a point in a whole number, and with a power of ten below
`10⁻⁵` and from `10¹⁶` on; a double that is not finite is null.
-/
import SearchSql.Row

namespace SearchSql.Json

open SearchSql.Number

/-! ## 1. Parts -/

/-- Doubles in JSON text; a tie goes to the even digit. -/
def layout : Layout where
  tie := .even
  plain := fun leading => -5 ≤ leading && leading ≤ 15
  wholeMark := ".0"
  nan := "null"
  infinity := "null"

def number (x : Double) : String :=
  if x.isFinite then layout.text x else "null"

/-- The two hexadecimal digits of a number below 256. -/
def hexPair (n : Nat) : List Char :=
  [Nat.digitChar (n / 16), Nat.digitChar (n % 16)]

/-- One character inside a string. -/
def escapeChar (c : Char) : List Char :=
  if c = '"' then ['\\', '"']
  else if c = '\\' then ['\\', '\\']
  else if c = '\x08' then ['\\', 'b']
  else if c = '\x0c' then ['\\', 'f']
  else if c = '\n' then ['\\', 'n']
  else if c = '\r' then ['\\', 'r']
  else if c = '\t' then ['\\', 't']
  else if c.toNat < 0x20 then '\\' :: 'u' :: '0' :: '0' :: hexPair c.toNat
  else [c]

/-- A string. -/
def string (s : String) : String :=
  String.ofList ('"' :: (s.toList.flatMap escapeChar ++ ['"']))

/-- An object; the members' values are JSON text. -/
def object (members : List (String × String)) : String :=
  "\x7b" ++ String.intercalate "," (members.map fun m => string m.1 ++ ":" ++ m.2) ++ "\x7d"

/-! ## 2. Values and rows -/

/-- A value. -/
def value : Value → String
  | .null => "null"
  | .int n => intText n.toInt
  | .float x => number x
  | .text s => string s

/-- Named values as an object. -/
def mapping (entries : List (String × Value)) : String :=
  object (entries.map fun e => (e.1, value e.2))

/-- A row as an object: its names in order, repeated where they repeat. -/
def row (r : Row) : String :=
  mapping r.cells

end SearchSql.Json
