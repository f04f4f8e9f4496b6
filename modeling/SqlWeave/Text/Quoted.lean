import SqlWeave.Text.Faceless
import SqlWeave.Text.Hex

/-!
# Quoted texts in messages

A message that repeats a text puts it between double quotes, with the quote, the backslash and the
characters that would not show written as escapes.
-/

namespace SqlWeave

namespace Chars

/-- A character as a message shows it. -/
def showChar (c : Char) : List Char :=
  if c = '\x00' then ['\\', '0']
  else if c = '\t' then ['\\', 't']
  else if c = '\n' then ['\\', 'n']
  else if c = '\r' then ['\\', 'r']
  else if c = '"' then ['\\', '"']
  else if c = '\\' then ['\\', '\\']
  else if c < ' ' ∨ c = '\x7f' ∨ isFaceless c then
    ['\\', 'u', '\x7b'] ++ hexNumber c.toNat ++ ['\x7d']
  else [c]

end Chars

namespace Text

/-- A text between double quotes, as a message shows it. -/
def quoted (s : String) : String :=
  "\"" ++ String.ofList (s.toList.flatMap Chars.showChar) ++ "\""

end Text

end SqlWeave
