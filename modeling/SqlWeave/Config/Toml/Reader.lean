import SqlWeave.Config.Toml.Table
import SqlWeave.Config.Toml.Text
import SqlWeave.Config.Toml.Word

/-!
# Reading TOML

A document is a sequence of lines, each a key with its value, a header, a comment or blank.

* `Toml.key?`, `Toml.value?` — what stands on the two sides of the equals sign.
* `Toml.document?` — the settings of a whole document.
-/

namespace SqlWeave

namespace Toml

/-! ## Keys -/

/-- One part of a key. -/
def keyPart? (s : List Char) : Option (String × List Char) :=
  match s with
  | '"' :: r => (basic? (r.length + 1) r).map fun (cs, rest) => (String.ofList cs, rest)
  | '\'' :: r => (literal? r).map fun (cs, rest) => (String.ofList cs, rest)
  | _ =>
    let name := s.takeWhile isKeyChar
    if name.isEmpty then none else some (String.ofList name, s.dropWhile isKeyChar)

/-- The parts of a key but the last, the last part, and what follows the key; the key has so many
parts at most. -/
def keyWithin? : Nat → List Char → Option (List String × String × List Char)
  | 0, _ => none
  | most + 1, s =>
    match keyPart? (skip s) with
    | none => none
    | some (part, r) =>
      match skip r with
      | '.' :: r => (keyWithin? most r).map fun (path, last, rest) => (part :: path, last, rest)
      | r => some ([], part, r)

/-- The most parts that a key may have, and the most brackets that may be open at a time. -/
def maxDepth : Nat := 80

/-- A key: its parts but the last, the last part, and what follows. -/
def key? (s : List Char) : Option (List String × String × List Char) :=
  keyWithin? maxDepth s

/-! ## Values

An item or a field takes at least one character and a pair of brackets two, so the length of the
text is fuel enough. -/

mutual

/-- A value inside of so many open brackets, and what follows it. -/
def value? : (fuel depth : Nat) → List Char → Option (Setting × List Char)
  | 0, _, _ => none
  | fuel + 1, depth, s =>
    match s with
    | '[' :: r =>
      if depth < maxDepth then
        (items? fuel (depth + 1) r).map fun (items, rest) => (.list items, rest)
      else none
    | '{' :: r =>
      if depth < maxDepth then
        (fields? fuel (depth + 1) .headed r).map fun (t, rest) => (t.setting, rest)
      else none
    | c :: r =>
      if c = '"' ∨ c = '\'' then (text? (c :: r)).map fun (text, rest) => (.text text, rest)
      else
        let (w, rest) := word (c :: r)
        (plain? w).map fun v => (v, rest)
    | [] => none

/-- The items of an array up to and with its closing bracket. -/
def items? : (fuel depth : Nat) → List Char → Option (List Setting × List Char)
  | 0, _, _ => none
  | fuel + 1, depth, s =>
    match skipLines s with
    | ']' :: r => some ([], r)
    | r =>
      match value? fuel depth r with
      | none => none
      | some (v, r) =>
        match skipLines r with
        | ']' :: r => some ([v], r)
        | ',' :: r => (items? fuel depth r).map fun (vs, rest) => (v :: vs, rest)
        | _ => none

/-- The fields of a table between braces up to and with the closing one.  Line ends and comments
may stand everywhere but inside of a key. -/
def fields? : (fuel depth : Nat) → TomlTable → List Char → Option (TomlTable × List Char)
  | 0, _, _, _ => none
  | fuel + 1, depth, t, s =>
    match skipLines s with
    | '}' :: r => some (t, r)
    | r =>
      match key? r with
      | none => none
      | some (path, key, r) =>
        match skipLines r with
        | '=' :: r =>
          match value? fuel depth (skipLines r) with
          | none => none
          | some (v, r) =>
            match t.assign path key v with
            | none => none
            | some t =>
              match skipLines r with
              | '}' :: r => some (t, r)
              | ',' :: r => fields? fuel depth t r
              | _ => none
        | _ => none

end

/-! ## Documents -/

/-- A document in the making: its root, and the path of the table that keys go into. -/
structure State where
  root : TomlTable
  header : List String

/-- Reads a key and its value into the current table. -/
def State.assignment? (fuel : Nat) (st : State) (s : List Char) : Option (State × List Char) :=
  match key? s with
  | some (path, key, '=' :: r) =>
    match value? fuel 0 (skip r) with
    | none => none
    | some (v, rest) =>
      (TomlTable.walk false (fun t => t.assign path key v) st.header st.root).map fun root =>
        ({ st with root := root }, rest)
  | _ => none

/-- Reads a header whose opening brackets are gone. -/
def State.header? (st : State) (isArray : Bool) (s : List Char) : Option (State × List Char) :=
  match key? s with
  | some (path, key, ']' :: r) =>
    let root := if isArray then st.root.append path key else st.root.define path key
    let rest := match isArray, r with
      | true, ']' :: r => some r
      | true, _ => none
      | false, r => some r
    match root, rest with
    | some root, some rest => some (⟨root, path ++ [key]⟩, rest)
    | _, _ => none
  | _ => none

/-- Reads what stands on a line, if it is neither blank nor a comment. -/
def State.line? (fuel : Nat) (st : State) (s : List Char) : Option (State × List Char) :=
  match skip s with
  | '[' :: '[' :: r => st.header? true r
  | '[' :: r => st.header? false r
  | r => st.assignment? fuel r

/-- Reads lines to the end of the text, each of which takes a character. -/
def lines? : Nat → State → List Char → Option TomlTable
  | 0, _, _ => none
  | fuel + 1, st, s =>
    match skipLines s with
    | [] => some st.root
    | r =>
      match st.line? fuel r with
      | none => none
      | some (st, rest) => (finishLine? rest).bind (lines? fuel st)

/-- The settings of a document. -/
def document? (s : String) : Option Setting :=
  let text := match s.toList with
    | '\ufeff' :: r => r
    | r => r
  (lines? (text.length + 1) ⟨.headed, []⟩ text).map TomlTable.setting

end Toml

end SqlWeave
