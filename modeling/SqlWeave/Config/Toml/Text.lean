import SqlWeave.Config.Toml.Line
import SqlWeave.Text.Hex

/-!
# Texts of a TOML document

A text is written in one of four forms: between quotes or, literally, between apostrophes, on one
line or between three of them on several.

* `Toml.basic?`, `Toml.literal?` — the two forms on one line.
* `Toml.longText?` — a form on several lines.
* `Toml.text?` — any of the four.
-/

namespace SqlWeave

namespace Toml

/-- The character of a code point, if it is one. -/
def codePoint? (digits : List Char) : Option Char :=
  (Chars.hexRead? digits).bind fun n =>
    if n < 0xd800 ∨ (0xdfff < n ∧ n < 0x110000) then some (Char.ofNat n) else none

/-- The character of an escape whose backslash is gone, and what follows it. -/
def escape? : List Char → Option (Char × List Char)
  | 'b' :: r => some ('\x08', r)
  | 't' :: r => some ('\t', r)
  | 'n' :: r => some ('\n', r)
  | 'f' :: r => some ('\x0c', r)
  | 'r' :: r => some ('\r', r)
  | 'e' :: r => some ('\x1b', r)
  | '"' :: r => some ('"', r)
  | '\\' :: r => some ('\\', r)
  | 'x' :: r => if 2 ≤ r.length then (codePoint? (r.take 2)).map fun c => (c, r.drop 2) else none
  | 'u' :: r => if 4 ≤ r.length then (codePoint? (r.take 4)).map fun c => (c, r.drop 4) else none
  | 'U' :: r => if 8 ≤ r.length then (codePoint? (r.take 8)).map fun c => (c, r.drop 8) else none
  | _ => none

/-- The rest of a text between quotes on one line. -/
def basic? : Nat → List Char → Option (List Char × List Char)
  | 0, _ => none
  | fuel + 1, s =>
    match s with
    | '"' :: r => some ([], r)
    | '\\' :: r =>
      match escape? r with
      | some (c, r) => (basic? fuel r).map fun (cs, rest) => (c :: cs, rest)
      | none => none
    | c :: r =>
      if isPlain c then (basic? fuel r).map fun (cs, rest) => (c :: cs, rest) else none
    | [] => none

/-- The rest of a literal text on one line. -/
def literal? : List Char → Option (List Char × List Char)
  | '\'' :: r => some ([], r)
  | c :: r => if isPlain c then (literal? r).map fun (cs, rest) => (c :: cs, rest) else none
  | [] => none

/-- The end of a text of several lines: three quotes, in front of which one or two more belong to
the text. -/
def longEnd? (quote : Char) (s : List Char) : Option (List Char × List Char) :=
  let quotes := (s.takeWhile (· == quote)).length
  if quotes < 3 then none
  else some (List.replicate (min quotes 5 - 3) quote, s.drop (min quotes 5))

/-- Skips blanks and line ends. -/
def skipBlank : List Char → List Char
  | '\r' :: '\n' :: r => skipBlank r
  | c :: r => if c = ' ' ∨ c = '\t' ∨ c = '\n' then skipBlank r else c :: r
  | [] => []

/-- What follows a backslash at the end of a line: the next text after all blanks. -/
def continued? (s : List Char) : Option (List Char) :=
  (lineEnd? (skip s)).map skipBlank

/-- The rest of a text of several lines, whose line ends are kept as they are. -/
def longText? (quote : Char) : Nat → List Char → Option (List Char × List Char)
  | 0, _ => none
  | fuel + 1, s =>
    match longEnd? quote s with
    | some found => some found
    | none =>
      match s with
      | '\r' :: '\n' :: r =>
        (longText? quote fuel r).map fun (cs, rest) => ('\r' :: '\n' :: cs, rest)
      | '\n' :: r => (longText? quote fuel r).map fun (cs, rest) => ('\n' :: cs, rest)
      | '\\' :: r =>
        if quote = '\'' then
          (longText? quote fuel r).map fun (cs, rest) => ('\\' :: cs, rest)
        else
          match continued? r with
          | some r => longText? quote fuel r
          | none =>
            match escape? r with
            | some (c, r) => (longText? quote fuel r).map fun (cs, rest) => (c :: cs, rest)
            | none => none
      | c :: r =>
        if isPlain c then (longText? quote fuel r).map fun (cs, rest) => (c :: cs, rest) else none
      | [] => none

/-- Drops a line end at the start of a text of several lines. -/
def dropLineEnd (s : List Char) : List Char :=
  (lineEnd? s).getD s

/-- A text of any of the four forms. -/
def text? (s : List Char) : Option (String × List Char) :=
  let found := match s with
    | '"' :: '"' :: '"' :: r => longText? '"' (r.length + 1) (dropLineEnd r)
    | '\'' :: '\'' :: '\'' :: r => longText? '\'' (r.length + 1) (dropLineEnd r)
    | '"' :: r => basic? (r.length + 1) r
    | '\'' :: r => literal? r
    | _ => none
  found.map fun (cs, rest) => (String.ofList cs, rest)

end Toml

end SqlWeave
