import Graft.Text.Printable
import Graft.Text.Search

/-! # Quoted text

How a message shows a text: between double quotes, with the characters that would not show escaped.
`\"`, `\\`, `\n`, `\r`, `\t` and `\0` have names; other characters that do not print are written
`\u{…}` with their number in hexadecimal. -/

namespace Graft.Text

/-- The decimal digits of a number. -/
def ofNat (n : Nat) : Text :=
  Nat.toDigits 10 n

/-- A character as it is written between quotes. -/
def escaped (c : Char) : Text :=
  if c = '"' then "\\\""
  else if c = '\\' then "\\\\"
  else if c = '\n' then "\\n"
  else if c = '\r' then "\\r"
  else if c = '\t' then "\\t"
  else if c = '\x00' then "\\0"
  else if isPrintable c then [c]
  else "\\u\x7b" ++ Nat.toDigits 16 c.toNat ++ "\x7d"

/-- A text between double quotes. -/
def quoted (t : Text) : Text :=
  ['"'] ++ t.flatMap escaped ++ ['"']

/-- Quoted texts between brackets. -/
def quotedList (ts : List Text) : Text :=
  ['['] ++ joined ", " (ts.map quoted) ++ [']']

end Graft.Text
