import SqlWeave.Number.Reader
import SqlWeave.Style.Alias
import SqlWeave.Style.Quoting
import SqlWeave.Value.Basic

/-!
# How names are written

A style is a dialect with the settings that a deployment may change: the quotes around names and
the text in front of every table name.

* `Style.segment` — one quoted part of a name.
* `Style.table` — a table name; the table prefix goes on its last part and on its alias.
* `Style.column` — a column name; a qualifier is written as a table, and arrows become the
  dialect's selection of a place inside a JSON document, if it has one.
-/

namespace SqlWeave

/-- A table: a name, perhaps with a schema and an alias, or SQL text. -/
inductive Table where
  | named (name : String)
  | raw (sql : String)
  deriving DecidableEq, Repr

/-- The name as given, or the SQL text. -/
def Table.text : Table → String
  | .named name => name
  | .raw sql => sql

/-- A dialect, the quoting that replaces the dialect's own, and the text in front of table names. -/
structure Style where
  dialect : Dialect
  customQuoting : Option Quoting
  tablePrefix : String
  deriving DecidableEq, Repr

namespace Style

/-- A dialect without further settings. -/
def plain (d : Dialect) : Style :=
  ⟨d, none, ""⟩

/-- The quoting in force. -/
def quoting (s : Style) : Quoting :=
  s.customQuoting.getD s.dialect.quoting

/-- Whether the dialect knows an operator. -/
def knows (s : Style) (operator : String) : Bool :=
  s.dialect.knows operator

/-- A quoted part of a name. -/
def segment (s : Style) (part : String) : String :=
  s.quoting.segment part

/-- A quoted part with the table prefix on it. -/
def prefixed (s : Style) (part : String) : String :=
  s.segment (s.tablePrefix ++ part)

/-! ## Tables -/

/-- A table name without alias: what stands before its last dot is one part. -/
def bareTable (s : Style) (name : String) : String :=
  match Text.cutLast? '.' name with
  | some (schema, last) => s.segment schema ++ "." ++ s.prefixed last
  | none => s.prefixed name

/-- A table name, perhaps with an alias. -/
def table (s : Style) (name : String) : String :=
  match _h : Text.splitAlias? name with
  | some (name, label) => s.table name ++ " as " ++ s.prefixed label
  | none => s.bareTable name
termination_by name.length
decreasing_by exact (Text.length_splitAlias? _h).1

/-- A table as it is declared. -/
def tableSql (s : Style) : Table → String
  | .named name => s.table name
  | .raw sql => sql

/-- A table as the rest of the statement refers to it: its alias, if it has one. -/
def tableAlias (s : Style) : Table → String
  | .named name =>
    match Text.splitAlias? name with
    | some (_, label) => s.prefixed label
    | none => s.table name
  | .raw sql => sql

/-! ## Places inside a document -/

/-- The steps of a path as the quoted path of a JSON function. -/
def quotedPath (path : List String) : String :=
  "'$." ++ ".".intercalate (path.map fun step => "\"" ++ Text.doubleQuotes step ++ "\"") ++ "'"

/-- A step as an operand of an arrow: an index as it stands, a key as a text literal. -/
def arrowKey (step : String) : String :=
  if (Chars.int64? step.toList).isSome then step else "'" ++ Text.doubleQuotes step ++ "'"

/-- The steps of a path as a chain of arrows, the last of which yields text. -/
def arrowChain : List String → String
  | [] => ""
  | [step] => "->>" ++ arrowKey step
  | step :: path => "->" ++ arrowKey step ++ arrowChain path

/-- The place at the end of a path inside a written field, if the dialect can select one. -/
def jsonPlace? (s : Style) (field : String) (path : List String) : Option String :=
  match s.dialect with
  | .ansi => none
  | .mysql => some (field ++ "->" ++ quotedPath path)
  | .postgres => some (field ++ arrowChain path)
  | .sqlite => some ("json_extract(" ++ field ++ ", " ++ quotedPath path ++ ")")
  | .sqlServer => some ("json_value(" ++ field ++ ", " ++ quotedPath path ++ ")")

/-! ## Columns -/

/-- The parts of a column name: of several, the first is a table. -/
def qualified (s : Style) : List String → List String
  | first :: second :: rest => s.table first :: s.segment second :: rest.map s.segment
  | parts => parts.map s.segment

/-- A dotted column name. -/
def dotted (s : Style) (name : String) : String :=
  ".".intercalate (s.qualified (Text.pieces '.' name))

/-- A column name without alias. -/
def bareColumn (s : Style) (name : String) : String :=
  match Text.arrowPieces name with
  | field :: step :: path => (s.jsonPlace? (s.dotted field) (step :: path)).getD (s.dotted name)
  | _ => s.dotted name

/-- A column name, perhaps with an alias. -/
def column (s : Style) (name : String) : String :=
  match _h : Text.splitAlias? name with
  | some (name, label) => s.column name ++ " as " ++ s.segment label
  | none => s.bareColumn name
termination_by name.length
decreasing_by exact (Text.length_splitAlias? _h).1

/-- Column names with commas between them. -/
def columnList (s : Style) (names : List String) : String :=
  ", ".intercalate (names.map s.column)

end Style

end SqlWeave
