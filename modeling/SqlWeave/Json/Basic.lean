import SqlWeave.NameMap
import SqlWeave.Number.Shortest
import SqlWeave.Text.Hex

/-!
# JSON values

A value with sorted object fields, and its compact text.

* `Json.ofFields` — an object from fields in any order: a later field replaces an earlier one of
  the same name, and the names are sorted by code points.
* `Json.render` — the text without blanks, in which a whole number keeps its digits and every
  other number is a double in compact form.
-/

namespace SqlWeave

/-- A JSON value.  Whole numbers of 64 bits, with or without sign, are exact; the others are
doubles. -/
inductive Json where
  | null
  | bool (value : Bool)
  | whole (value : Int)
  | float (value : Double)
  | text (value : String)
  | list (items : List Json)
  | object (fields : List (String × Json))
  deriving Inhabited

namespace Json

/-- The object with the given fields, the last of each name. -/
def ofFields (fields : List (String × Json)) : Json :=
  .object (NameMap.ofList fields).entries

/-! ## Text -/

/-- A character as it stands in a JSON string. -/
def escapeChar (c : Char) : List Char :=
  if c = '"' then ['\\', '"']
  else if c = '\\' then ['\\', '\\']
  else if c = '\x08' then ['\\', 'b']
  else if c = '\t' then ['\\', 't']
  else if c = '\n' then ['\\', 'n']
  else if c = '\x0c' then ['\\', 'f']
  else if c = '\r' then ['\\', 'r']
  else if c < ' ' then ['\\', 'u'] ++ Chars.hexDigits 4 c.toNat
  else [c]

/-- A string between quotes, with its quotes, backslashes and control characters escaped. -/
def renderString (s : String) : String :=
  "\"" ++ String.ofList (s.toList.flatMap escapeChar) ++ "\""

mutual

/-- The compact text of a value. -/
def render : Json → String
  | .null => "null"
  | .bool b => if b then "true" else "false"
  | .whole n => toString n
  | .float x => x.compactText
  | .text s => renderString s
  | .list items => "[" ++ ",".intercalate (renderItems items) ++ "]"
  | .object fields => "\x7b" ++ ",".intercalate (renderFields fields) ++ "\x7d"

/-- The texts of the items of a list. -/
def renderItems : List Json → List String
  | [] => []
  | v :: r => render v :: renderItems r

/-- The texts of the fields of an object. -/
def renderFields : List (String × Json) → List String
  | [] => []
  | (name, v) :: r => (renderString name ++ ":" ++ render v) :: renderFields r

end

end Json

end SqlWeave
