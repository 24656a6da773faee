/-
SearchSql.Text.Quoted — a text in double quotes, as error messages show it.

Quotation marks and backslashes get a backslash; line ends, tabs and NUL are
written by their letters; a character without a shape of its own is spelled
out as its code point in hexadecimal digits. All others stand as they are.
-/
import SearchSql.Text.Unprintable

namespace SearchSql.Text

/-- One character inside double quotes. -/
def quotedChar (c : Char) : List Char :=
  if c = '"' then ['\\', '"']
  else if c = '\\' then ['\\', '\\']
  else if c = '\n' then ['\\', 'n']
  else if c = '\r' then ['\\', 'r']
  else if c = '\t' then ['\\', 't']
  else if c = '\x00' then ['\\', '0']
  else if isUnprintable c then
    '\\' :: 'u' :: '\x7b' :: (Nat.toDigits 16 c.toNat ++ ['\x7d'])
  else [c]

/-- A text in double quotes. -/
def quoted (s : String) : String :=
  String.ofList ('"' :: (s.toList.flatMap quotedChar ++ ['"']))

end SearchSql.Text
