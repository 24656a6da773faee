/-
SearchSql.Json.Reader — a value read from JSON text.

Null, numbers and strings are values. Truth values, arrays and objects are
not, so the text of one is refused like a malformed text.
-/
import SearchSql.Json.Number

namespace SearchSql.Json

/-! ## 1. Strings -/

/-- The value of a hexadecimal digit. -/
def hexDigit? (c : Char) : Option Nat :=
  if '0' ≤ c ∧ c ≤ '9' then some (c.toNat - '0'.toNat)
  else if 'a' ≤ c ∧ c ≤ 'f' then some (c.toNat - 'a'.toNat + 10)
  else if 'A' ≤ c ∧ c ≤ 'F' then some (c.toNat - 'A'.toNat + 10)
  else none

/-- The value of four hexadecimal digits. -/
def hexQuad? (a b c d : Char) : Option Nat := do
  let a ← hexDigit? a
  let b ← hexDigit? b
  let c ← hexDigit? c
  let d ← hexDigit? d
  return ((a * 16 + b) * 16 + c) * 16 + d

/-- The character of an escape of one letter. -/
def letterEscape? (c : Char) : Option Char :=
  match c with
  | '"' => some '"'
  | '\\' => some '\\'
  | '/' => some '/'
  | 'b' => some '\x08'
  | 'f' => some '\x0c'
  | 'n' => some '\n'
  | 'r' => some '\r'
  | 't' => some '\t'
  | _ => none

/-- Whether a code unit is half of a surrogate pair. -/
def isSurrogate (n : Nat) : Bool :=
  0xD800 ≤ n && n ≤ 0xDFFF

/-- The character of a surrogate pair. -/
def pairChar? (high low : Nat) : Option Char :=
  if high ≤ 0xDBFF ∧ 0xDC00 ≤ low ∧ low ≤ 0xDFFF then
    some (Char.ofNat (0x10000 + (high - 0xD800) * 0x400 + (low - 0xDC00)))
  else none

/-- Reads a string from behind its opening quotation mark, and gives the rest
of the text behind the closing one. Control characters have to be escaped, and
an escaped half of a surrogate pair is the first and has the second behind
it. -/
def readString : List Char → Option (List Char × List Char)
  | [] => none
  | '"' :: rest => some ([], rest)
  | '\\' :: 'u' :: a :: b :: c :: d :: rest => do
    let n ← hexQuad? a b c d
    if isSurrogate n then
      match rest with
      | '\\' :: 'u' :: e :: f :: g :: h :: rest => do
        let m ← hexQuad? e f g h
        let x ← pairChar? n m
        let (cs, rest) ← readString rest
        return (x :: cs, rest)
      | _ => none
    else
      let (cs, rest) ← readString rest
      return (Char.ofNat n :: cs, rest)
  | '\\' :: c :: rest => do
    let x ← letterEscape? c
    let (cs, rest) ← readString rest
    return (x :: cs, rest)
  | c :: rest => do
    if c.toNat < 0x20 || c == '\\' then none
    else
      let (cs, rest) ← readString rest
      return (c :: cs, rest)

/-! ## 2. Values -/

/-- The white space of JSON. -/
def isSpace (c : Char) : Bool :=
  c ∈ [' ', '\t', '\n', '\r']

/-- Reads a value at the start of a text, and gives the rest of the text. -/
def readValue (cs : List Char) : Option (Value × List Char) :=
  match cs with
  | 'n' :: 'u' :: 'l' :: 'l' :: rest => some (.null, rest)
  | '"' :: rest => (readString rest).map fun (s, rest) => (.text (String.ofList s), rest)
  | _ => readNumber cs

/-- The value of a JSON text, with white space around it, if any. -/
def read? (s : String) : Option Value := do
  let (value, rest) ← readValue (s.toList.dropWhile isSpace)
  if rest.all isSpace then some value else none

end SearchSql.Json
