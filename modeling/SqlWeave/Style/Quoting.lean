import SqlWeave.Style.Dialect

/-!
# Quoted names

A name is quoted part by part.  Inside a part, whatever could end it early is written in its
substitute form; the part `*` means all columns and is never quoted.

* `Quoting.segment` — one part.
* `Quoting.identifier` — the parts between the dots, each on its own.
-/

namespace SqlWeave

/-- What stands before and after a quoted part, and which text inside it has a substitute. -/
structure Quoting where
  opening : String
  closing : String
  special : String
  substitute : String
  deriving DecidableEq, Repr

namespace Quoting

/-- Double quotes. -/
def ansi : Quoting :=
  ⟨"\"", "\"", "\"", "\"\""⟩

/-- Backticks. -/
def backtick : Quoting :=
  ⟨"`", "`", "`", "``"⟩

/-- Square brackets, of which only the closing one needs a substitute. -/
def bracket : Quoting :=
  ⟨"[", "]", "]", "]]"⟩

/-- A quoted part. -/
def segment (q : Quoting) (part : String) : String :=
  if part = "*" then part
  else q.opening ++ Text.replace q.special q.substitute part ++ q.closing

/-- A dotted name, quoted part by part. -/
def identifier (q : Quoting) (name : String) : String :=
  ".".intercalate ((Text.pieces '.' name).map q.segment)

end Quoting

/-- The quoting of a dialect. -/
def Dialect.quoting : Dialect → Quoting
  | .mysql => .backtick
  | .sqlServer => .bracket
  | .ansi | .postgres | .sqlite => .ansi

end SqlWeave
