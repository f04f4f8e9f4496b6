import SqlWeave.Value.Basic

/-!
# Literals

A value written into the SQL text itself, which serves logs and debugging when no connection can
quote it.

* `escape` — the body of a text literal: the seven special characters have backslash forms.
* `Value.literal` — the literal of any value.
* `placeholders` — how many question marks of a statement stand outside of quotes.
* `interpolate` — the statement with each of these replaced by a quoted value.
-/

namespace SqlWeave

/-! ## Literals of values -/

namespace Chars

/-- A character as it stands in a text literal. -/
def escapeChar (c : Char) : List Char :=
  if c = '\\' then ['\\', '\\']
  else if c = '\x00' then ['\\', '0']
  else if c = '\n' then ['\\', 'n']
  else if c = '\r' then ['\\', 'r']
  else if c = '\'' then ['\\', '\'']
  else if c = '"' then ['\\', '"']
  else if c = '\x1a' then ['\\', 'Z']
  else [c]

/-- The body of a text literal. -/
def escape (s : List Char) : List Char :=
  s.flatMap escapeChar

end Chars

namespace Text

/-- The body of a text literal. -/
def escape (s : String) : String :=
  String.ofList (Chars.escape s.toList)

end Text

namespace Value

/-- The literal of a value, without the help of a connection. -/
def literal : Value → String
  | .null => "NULL"
  | .bool b => if b then "1" else "0"
  | .int n => toString n.toInt
  | .uint n => toString n.toNat
  | .float x => x.plainText
  | .text s => "'" ++ Text.escape s ++ "'"
  | .bytes bs => "x'" ++ String.ofList (Chars.hexBytes bs) ++ "'"
  | .json j => "'" ++ Text.escape j.render ++ "'"
  | .date d => "'" ++ d.text ++ "'"
  | .dateTime t => "'" ++ t.text ++ "'"
  | .uuid u => "'" ++ u.text ++ "'"

end Value

/-! ## Placeholders

A single quote opens or closes a literal, whatever stands around it; a question mark outside of
literals is a placeholder. -/

namespace Chars

/-- The number of placeholders, where `quoted` says whether the text begins inside a literal. -/
def placeholdersFrom (quoted : Bool) : List Char → Nat
  | [] => 0
  | c :: r =>
    if c = '\'' then placeholdersFrom (!quoted) r
    else if c = '?' ∧ quoted = false then placeholdersFrom quoted r + 1
    else placeholdersFrom quoted r

/-- The text in which the placeholders are replaced by literals as long as there are any, where
`quoted` says whether the text begins inside a literal. -/
def interpolateFrom (quoted : Bool) : List (List Char) → List Char → List Char
  | _, [] => []
  | literals, c :: r =>
    if c = '\'' then c :: interpolateFrom (!quoted) literals r
    else if c = '?' ∧ quoted = false then
      literals.headD [c] ++ interpolateFrom quoted literals.tail r
    else c :: interpolateFrom quoted literals r

end Chars

namespace Text

/-- The number of placeholders of a statement. -/
def placeholders (sql : String) : Nat :=
  Chars.placeholdersFrom false sql.toList

/-- A statement with its values written in by `quote`; a placeholder without a value stays, and a
value without a placeholder is left out. -/
def interpolate (quote : Value → String) (sql : String) (values : List Value) : String :=
  String.ofList
    (Chars.interpolateFrom false (values.map fun v => (quote v).toList) sql.toList)

end Text

end SqlWeave
