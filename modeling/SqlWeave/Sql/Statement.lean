import SqlWeave.Value.Literal

/-!
# Finished statements

SQL text with its values in the order of the placeholders.
-/

namespace SqlWeave

/-- SQL text and the values of its placeholders. -/
structure Statement where
  sql : String
  values : List Value

namespace Statement

/-- The number of placeholders. -/
def placeholders (s : Statement) : Nat :=
  Text.placeholders s.sql

/-- The text with its values written in by `quote`. -/
def interpolate (quote : Value → String) (s : Statement) : String :=
  Text.interpolate quote s.sql s.values

end Statement

end SqlWeave
