/-!
# Lines of a TOML document

What stands between the words of a document: blanks, comments and line ends.  A line ends with a
line feed, which a carriage return may precede; a carriage return on its own is nowhere allowed.

* `Toml.skip`, `Toml.skipLines` — over blanks on a line, and over blanks, comments and line ends.
* `Toml.finishLine?` — to the start of the next line.
-/

namespace SqlWeave

namespace Toml

/-- Skips tabs and spaces. -/
def skip (s : List Char) : List Char :=
  s.dropWhile fun c => c == ' ' || c == '\t'

/-- What follows a line end that stands here. -/
def lineEnd? : List Char → Option (List Char)
  | '\n' :: r => some r
  | '\r' :: '\n' :: r => some r
  | _ => none

/-- Whether a character may stand in a comment or a text as it is. -/
def isPlain (c : Char) : Bool :=
  c == '\t' || (' ' ≤ c && c ≠ '\x7f')

/-- Skips a comment if one stands here. -/
def comment : List Char → List Char
  | '#' :: r => r.dropWhile isPlain
  | r => r

/-- Skips blanks, a comment, and the line end, which only the end of the text may replace. -/
def finishLine? (s : List Char) : Option (List Char) :=
  match comment (skip s) with
  | [] => some []
  | r => lineEnd? r

mutual

/-- Skips blanks, comments and line ends. -/
def skipLines : List Char → List Char
  | '\r' :: '\n' :: r => skipLines r
  | c :: r =>
    if c = ' ' ∨ c = '\t' ∨ c = '\n' then skipLines r
    else if c = '#' then skipComment r
    else c :: r
  | [] => []

/-- Skips the rest of a comment, and blanks, comments and line ends after it. -/
def skipComment : List Char → List Char
  | '\r' :: '\n' :: r => skipLines r
  | c :: r =>
    if c = '\n' then skipLines r
    else if isPlain c then skipComment r
    else c :: r
  | [] => []

end

end Toml

end SqlWeave
