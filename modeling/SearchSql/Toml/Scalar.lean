/-
SearchSql.Toml.Scalar — numbers, truth values, dates and times of a TOML
document.

These are the values without quotes or brackets. Each is read as a whole, with
the blanks inside it: a date and a time of day may have a space between them.
-/
import SearchSql.Toml.Text
import SearchSql.Toml.Value

namespace SearchSql.Toml

open SearchSql.Number SearchSql.Text

/-! ## 1. Numbers -/

/-- The digits of a text in which single low lines may stand between digits. -/
def separated? (isDigit : Char → Bool) : List Char → Option (List Char)
  | [] => none
  | [c] => if isDigit c then some [c] else none
  | c :: '_' :: rest => if isDigit c then (separated? isDigit rest).map (c :: ·) else none
  | c :: rest => if isDigit c then (separated? isDigit rest).map (c :: ·) else none

/-- Digits of base ten that do not start with a superfluous zero. -/
def wholeDigits? (cs : List Char) : Option (List Char) := do
  let digits ← separated? isDigit cs
  if digits.length = 1 ∨ digits.head? ≠ some '0' then some digits else none

/-- Whether a character is a digit of a base up to sixteen. -/
def isDigitOf (base : Nat) (c : Char) : Bool :=
  match Json.hexDigit? c with
  | some d => d < base
  | none => false

/-- Reads the digits behind the mark of a base. A mark alone is an integer
without a value. -/
def based? (base : Nat) (cs : List Char) : Option (Option Int) :=
  if cs.isEmpty then some none
  else
    (separated? (isDigitOf base) cs).map fun digits =>
      let n : Nat := (digits.filterMap Json.hexDigit?).foldl (fun n d => n * base + d) 0
      some (n : Int)

/-- Whether the groups behind the low lines of an integer have its form: a
hexadecimal digit stands on both sides of every low line, and no group has a
point, the letter of a power of ten, or a space. -/
def areGroups : List (List Char) → Bool
  | [] => true
  | group :: rest =>
    let begins := group.head?.any (isDigitOf 16)
    let ends := rest.isEmpty || group.getLast?.any (isDigitOf 16)
    begins && ends && !group.any (· ∈ ['.', 'e', 'E', ' ']) && areGroups rest

/-- Reads an integer of base ten from behind its sign. Characters in a group
behind a low line that are no digits leave it without a value. -/
def grouped? (cs : List Char) : Option (Option Int) :=
  let (first, others) := pieces '_' cs
  let superfluous := first.head? == some '0' && cs.length != 1
  if first.isEmpty || !first.all isDigit || superfluous || !areGroups others then none
  else some ((readNat? (first ++ others.flatten)).map fun n => (n : Int))

/-- Reads an integer. The inner nothing is an integer without a value. -/
def integer? : List Char → Option (Option Int)
  | '0' :: 'x' :: digits => based? 16 digits
  | '0' :: 'o' :: digits => based? 8 digits
  | '0' :: 'b' :: digits => based? 2 digits
  | cs =>
    let (negative, rest) := takeSign cs
    (grouped? rest).map fun n => if negative then n.map (-·) else n

/-- The power of ten of a float, from its letter on. -/
def power? : List Char → Option Int
  | [] => some 0
  | c :: rest => do
    if c = 'e' ∨ c = 'E' then
      let (negative, rest) := takeSign rest
      let digits ← separated? isDigit rest
      let n : Int := Nat.ofDigitChars 10 digits 0
      return if negative then -n else n
    else none

/-- Reads a float that is written in digits: a point with digits on both sides
of it, a power of ten, or both. -/
def decimal? (negative : Bool) (cs : List Char) : Option Numeral := do
  let inPart (c : Char) : Bool := isDigit c || c == '_'
  let whole ← wholeDigits? (cs.takeWhile inPart)
  match cs.dropWhile inPart with
  | '.' :: rest =>
    let fraction ← separated? isDigit (rest.takeWhile inPart)
    let power ← power? (rest.dropWhile inPart)
    return ⟨negative, Nat.ofDigitChars 10 (whole ++ fraction) 0, power - fraction.length⟩
  | [] => none
  | rest =>
    let power ← power? rest
    return ⟨negative, Nat.ofDigitChars 10 whole 0, power⟩

/-- Reads a float. The inner nothing is a float that is out of range. -/
def float? (cs : List Char) : Option (Option Double) :=
  let (negative, rest) := takeSign cs
  if rest = ['i', 'n', 'f'] then some (some (Double.infinite negative))
  else if rest = ['n', 'a', 'n'] then some (some Double.nan)
  else
    (decimal? negative rest).map fun n =>
      let x := Double.ofNumeral n
      if x.isFinite then some x else none

/-! ## 2. Dates and times -/

/-- Takes a number of `width` digits off a text. -/
def takeNumber? (width : Nat) (cs : List Char) : Option (Nat × List Char) := do
  let digits := cs.take width
  if digits.length = width ∧ digits.all isDigit then
    some (Nat.ofDigitChars 10 digits 0, cs.drop width)
  else none

/-- Takes a character off a text that begins with it. -/
def takeChar? (c : Char) : List Char → Option (List Char)
  | [] => none
  | d :: rest => if c = d then some rest else none

/-- The days of a month of the Gregorian calendar. -/
def daysOf (year month : Nat) : Nat :=
  if month = 2 then
    if year % 4 = 0 ∧ (year % 100 ≠ 0 ∨ year % 400 = 0) then 29 else 28
  else if month ∈ [4, 6, 9, 11] then 30
  else 31

/-- Takes a date off a text. -/
def takeDate? (cs : List Char) : Option (List Char) := do
  let (year, rest) ← takeNumber? 4 cs
  let rest ← takeChar? '-' rest
  let (month, rest) ← takeNumber? 2 rest
  let rest ← takeChar? '-' rest
  let (day, rest) ← takeNumber? 2 rest
  if 1 ≤ month ∧ month ≤ 12 ∧ 1 ≤ day ∧ day ≤ daysOf year month then some rest else none

/-- Takes decimals of a second off a text, if it begins with them. -/
def takeDecimals? : List Char → Option (List Char)
  | '.' :: rest =>
    if (rest.takeWhile isDigit).isEmpty then none else some (rest.dropWhile isDigit)
  | rest => some rest

/-- Takes seconds off a text, if it begins with them. -/
def takeSeconds? : List Char → Option (List Char)
  | ':' :: rest => do
    let (second, rest) ← takeNumber? 2 rest
    if second ≤ 60 then takeDecimals? rest else none
  | rest => some rest

/-- Takes hours and minutes off a text. -/
def takeClock? (cs : List Char) : Option (List Char) := do
  let (hour, rest) ← takeNumber? 2 cs
  let rest ← takeChar? ':' rest
  let (minute, rest) ← takeNumber? 2 rest
  if hour ≤ 23 ∧ minute ≤ 59 then some rest else none

/-- Takes a time of day off a text. -/
def takeTime? (cs : List Char) : Option (List Char) := do
  let rest ← takeClock? cs
  takeSeconds? rest

/-- Whether a text is an offset from universal time, or empty. -/
def isOffset : List Char → Bool
  | [] => true
  | c :: rest =>
    if c = 'Z' ∨ c = 'z' then rest.isEmpty
    else if c = '+' ∨ c = '-' then takeClock? rest == some []
    else false

/-- Whether a text is a date, a time of day, or both with an offset, if any. -/
def isMoment (cs : List Char) : Bool :=
  match takeDate? cs with
  | none => takeTime? cs == some []
  | some [] => true
  | some (c :: rest) =>
    if c = 'T' ∨ c = 't' ∨ c = ' ' then
      match takeTime? rest with
      | some rest => isOffset rest
      | none => false
    else false

/-! ## 3. Scalars -/

/-- The value of a run of characters. -/
def scalar? (cs : List Char) : Option Value :=
  if cs = ['t', 'r', 'u', 'e'] then some (.boolean true)
  else if cs = ['f', 'a', 'l', 's', 'e'] then some (.boolean false)
  else
    match integer? cs with
    | some n => some (.integer n)
    | none =>
      match float? cs with
      | some x => some (.float x)
      | none => if isMoment cs then some .moment else none

/-- The characters that end a value without quotes or brackets. A quotation
mark inside such a value belongs to it. -/
def endsScalar (c : Char) : Bool :=
  c ∈ ['\n', '\r', ',', '=', '#', '[', ']', '\x7b', '\x7d']

def isQuote (c : Char) : Bool :=
  c == '"' || c == '\''

/-- Takes the characters of a value off a text, with the blanks between them.
Blanks that end the value, or that have a string behind them, stay. -/
def takeScalar : List Char → List Char × List Char
  | [] => ([], [])
  | c :: rest =>
    if endsScalar c then ([], c :: rest)
    else
      let (run, others) := takeScalar rest
      if isSpace c && (run.isEmpty || rest.head?.any isQuote) then ([], c :: rest)
      else (c :: run, others)

/-- Reads a scalar. -/
def readScalar (cs : List Char) : Option (Value × List Char) :=
  let (run, rest) := takeScalar cs
  (scalar? run).map (·, rest)

end SearchSql.Toml
