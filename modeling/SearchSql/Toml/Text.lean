/-
SearchSql.Toml.Text — blanks, comments, strings and keys of a TOML document.

Every reader takes a text and gives what it read and the rest of the text, or
nothing if the text does not begin with what it reads.
-/
import SearchSql.Json.Reader
import SearchSql.Text.Ascii

namespace SearchSql.Toml

open SearchSql.Text

/-! ## 1. Blanks -/

def isSpace (c : Char) : Bool :=
  c == ' ' || c == '\t'

/-- The characters of comments and of strings on one line: all but control
characters, the tab excepted. -/
def isPlain (c : Char) : Bool :=
  c == '\t' || (0x20 ≤ c.toNat && c.toNat != 0x7F)

def skipSpaces (cs : List Char) : List Char :=
  cs.dropWhile isSpace

/-- Takes the end of a line off a text. -/
def newline? : List Char → Option (List Char)
  | '\n' :: rest => some rest
  | '\r' :: '\n' :: rest => some rest
  | _ => none

/-- Skips a comment up to the end of its line. -/
def skipComment : List Char → List Char
  | '#' :: rest => rest.dropWhile isPlain
  | cs => cs

/-- Skips what may follow a line's content: blanks, a comment, and the end of
the line or of the document. -/
def endLine (cs : List Char) : Option (List Char) :=
  match skipComment (skipSpaces cs) with
  | [] => some []
  | rest => newline? rest

/-- Skips blanks, comments and ends of lines, at most `fuel` lines. -/
def skipLines : (fuel : Nat) → List Char → List Char
  | 0, cs => cs
  | fuel + 1, cs =>
    let rest := skipComment (skipSpaces cs)
    match newline? rest with
    | some rest => skipLines fuel rest
    | none => rest

/-- Skips all blanks, comments and ends of lines. -/
def skipBlank (cs : List Char) : List Char :=
  skipLines cs.length cs

/-! ## 2. Strings -/

/-- The character with a code point; surrogates and numbers beyond the last
code point have none. -/
def charOf? (n : Nat) : Option Char :=
  if n.isValidChar then some (Char.ofNat n) else none

/-- The character of hexadecimal digits. -/
def hexChar? (digits : List Char) : Option Char := do
  let values ← digits.mapM Json.hexDigit?
  charOf? (values.foldl (fun n d => n * 16 + d) 0)

/-- The character of an escape of one letter. -/
def letterEscape? (c : Char) : Option Char :=
  match c with
  | 'b' => some '\x08'
  | 't' => some '\t'
  | 'n' => some '\n'
  | 'f' => some '\x0c'
  | 'r' => some '\r'
  | 'e' => some '\x1b'
  | '"' => some '"'
  | '\\' => some '\\'
  | _ => none

/-- Takes `n` characters off a text that has as many. -/
def takeExactly? (n : Nat) (cs : List Char) : Option (List Char × List Char) :=
  if n ≤ cs.length then some (cs.take n, cs.drop n) else none

/-- Reads an escape from behind its backslash. -/
def readEscape : List Char → Option (Char × List Char)
  | [] => none
  | c :: rest => do
    let width := if c = 'x' then 2 else if c = 'u' then 4 else if c = 'U' then 8 else 0
    if width = 0 then
      let x ← letterEscape? c
      return (x, rest)
    else
      let (digits, rest) ← takeExactly? width rest
      let x ← hexChar? digits
      return (x, rest)

/-- Skips blanks and ends of lines. -/
def skipWhite : List Char → List Char
  | '\r' :: '\n' :: rest => skipWhite rest
  | c :: rest => if isSpace c || c == '\n' then skipWhite rest else c :: rest
  | [] => []

/-- The rest of a text behind a backslash at the end of a line: the end of the
line and all blanks and ends of lines after it are skipped. -/
def continuation? (cs : List Char) : Option (List Char) :=
  (newline? (skipSpaces cs)).map skipWhite

/-- Reads a string on one line from behind its opening mark. Backslashes are
escapes where `escapes` says so. -/
def readLineString (mark : Char) (escapes : Bool) :
    (fuel : Nat) → List Char → Option (List Char × List Char)
  | 0, _ => none
  | _ + 1, [] => none
  | fuel + 1, c :: rest =>
    if c = mark then some ([], rest)
    else if c = '\\' ∧ escapes then do
      let (x, rest) ← readEscape rest
      let (cs, rest) ← readLineString mark escapes fuel rest
      return (x :: cs, rest)
    else if isPlain c then do
      let (cs, rest) ← readLineString mark escapes fuel rest
      return (c :: cs, rest)
    else none

/-- The closing marks at the start of a text: three of them end a string, and
up to two before those belong to it. Gives the latter and the rest. -/
def closing? (mark : Char) (cs : List Char) : Option (List Char × List Char) :=
  let marks := ((cs.take 5).takeWhile (· == mark)).length
  if marks < 3 then none else some (List.replicate (marks - 3) mark, cs.drop marks)

/-- Reads a string over several lines from behind its opening marks. -/
def readBlockString (mark : Char) (escapes : Bool) :
    (fuel : Nat) → List Char → Option (List Char × List Char)
  | 0, _ => none
  | _ + 1, [] => none
  | fuel + 1, c :: rest =>
    match closing? mark (c :: rest) with
    | some closed => some closed
    | none =>
      match newline? (c :: rest) with
      | some rest => do
        let (cs, rest) ← readBlockString mark escapes fuel rest
        return ('\n' :: cs, rest)
      | none =>
        if c = '\\' ∧ escapes then
          match continuation? rest with
          | some rest => readBlockString mark escapes fuel rest
          | none => do
            let (x, rest) ← readEscape rest
            let (cs, rest) ← readBlockString mark escapes fuel rest
            return (x :: cs, rest)
        else if isPlain c then do
          let (cs, rest) ← readBlockString mark escapes fuel rest
          return (c :: cs, rest)
        else none

/-- Reads a string from behind its first mark. Three marks open a string over
several lines, and the end of the line behind them does not count. -/
def readString (mark : Char) (escapes : Bool) (cs : List Char) :
    Option (List Char × List Char) :=
  match after? [mark, mark] cs with
  | some rest =>
    let rest := (newline? rest).getD rest
    readBlockString mark escapes (rest.length + 1) rest
  | none => readLineString mark escapes (cs.length + 1) cs

/-! ## 3. Keys -/

/-- The characters of a key without quotes. -/
def isKeyChar (c : Char) : Bool :=
  isWordChar c || c == '-'

/-- Reads one key: bare, or a string on one line. -/
def readKey (cs : List Char) : Option (String × List Char) := do
  match cs with
  | '"' :: rest =>
    let (key, rest) ← readLineString '"' true (rest.length + 1) rest
    return (String.ofList key, rest)
  | '\'' :: rest =>
    let (key, rest) ← readLineString '\'' false (rest.length + 1) rest
    return (String.ofList key, rest)
  | _ =>
    let key := cs.takeWhile isKeyChar
    if key.isEmpty then none else some (String.ofList key, cs.dropWhile isKeyChar)

/-- Reads keys with points between them, at most `fuel` of them: the last one
and those before it. -/
def readKeys : (fuel : Nat) → List Char → Option ((List String × String) × List Char)
  | 0, _ => none
  | fuel + 1, cs => do
    let (key, rest) ← readKey (skipSpaces cs)
    match skipSpaces rest with
    | '.' :: rest =>
      let ((path, last), rest) ← readKeys fuel rest
      return ((key :: path, last), rest)
    | rest => return (([], key), rest)

/-- How many keys a dotted key may have. -/
def maxKeys : Nat := 80

/-- Reads a key, dotted or not. -/
def readPath (cs : List Char) : Option ((List String × String) × List Char) :=
  readKeys maxKeys cs

end SearchSql.Toml
