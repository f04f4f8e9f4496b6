/-!
# Sizes in bytes

Log records are cut to a number of UTF-8 bytes, never inside a character.
-/

namespace SqlWeave

namespace Chars

/-- The number of bytes that the characters take. -/
def byteSize (s : List Char) : Nat :=
  (s.map Char.utf8Size).foldr (· + ·) 0

/-- The longest run of leading characters that fits into `room` bytes. -/
def takeBytes : Nat → List Char → List Char
  | _, [] => []
  | room, c :: r => if c.utf8Size ≤ room then c :: takeBytes (room - c.utf8Size) r else []

end Chars

namespace Text

/-- A text cut to `room` bytes, with three dots in place of what is missing. -/
def abridge (room : Nat) (s : String) : String :=
  if Chars.byteSize s.toList ≤ room then s
  else String.ofList (Chars.takeBytes room s.toList) ++ "..."

end Text

end SqlWeave
