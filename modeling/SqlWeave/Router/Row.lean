import SqlWeave.Value.Basic

/-!
# Result rows

A row keeps its columns in the order of the select; names may repeat.
-/

namespace SqlWeave

/-- A row of a result. -/
structure Row where
  cells : List (String × Value)

namespace Row

/-- The value of the first column of a name. -/
def get? (r : Row) (name : String) : Option Value :=
  (r.cells.find? fun cell => cell.1 = name).map (·.2)

/-- The value at a position. -/
def at? (r : Row) (i : Nat) : Option Value :=
  r.cells[i]?.map (·.2)

/-- The number of columns. -/
def size (r : Row) : Nat :=
  r.cells.length

/-- Whether there are no columns. -/
def isEmpty (r : Row) : Bool :=
  r.cells.isEmpty

end Row

end SqlWeave
