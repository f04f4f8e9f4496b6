import SqlWeave.Query.Basic

/-!
# Insertions, updates and deletions

* `Query.insertRow` — the first row fixes the columns; later rows are matched to them by name.
* `Query.insertColumns`, `Query.insertValues` — columns and rows given apart.
* `Query.insertReturning` — a row whose key is to be reported.
* `Query.setAssignments`, `Query.makeDelete` — the other two kinds of change.
-/

namespace SqlWeave

/-! ## Matching a row to columns -/

/-- Takes an item out of a list by moving the last one into its place. -/
def swapRemove {α : Type} (items : List α) (i : Nat) : List α :=
  match items.getLast? with
  | some last => (items.set i last).dropLast
  | none => []

/-- The operand that a row pairs with a column, and the pairs that are left. -/
def takeCell (pairs : List (String × Param)) (column : String) :
    Option (Param × List (String × Param)) :=
  match pairs.findIdx? fun pair => pair.1 = column with
  | some i => (pairs[i]?).map fun pair => (pair.2, swapRemove pairs i)
  | none => none

/-- The cells of a row in the order of the columns; what the row lacks is null. -/
def cellsOf : List String → List (String × Param) → List Param
  | [], _ => []
  | column :: columns, pairs =>
    match takeCell pairs column with
    | some (operand, left) => operand :: cellsOf columns left
    | none => .value .null :: cellsOf columns pairs

namespace Query

/-! ## Insertions -/

/-- The insertion so far. -/
def inserted (q : Query) : Insertion :=
  q.insertion.getD .none

/-- Makes the statement an insertion of the given columns and rows. -/
def setInsertion (q : Query) (i : Insertion) : Query :=
  { q with kind := .insert, insertion := some i }

/-- Appends a row of pairs.  A row that names a column which the columns lack is refused. -/
def insertRow (q : Query) (pairs : List (String × Param)) : Query :=
  let i := q.inserted
  if i.columns.isEmpty then
    q.setInsertion ⟨pairs.map (·.1), i.rows ++ [pairs.map (·.2)]⟩
  else
    match pairs.find? fun pair => !i.columns.contains pair.1 with
    | some (unknown, _) => (q.setInsertion i).fail (.unknownColumn unknown)
    | none => q.setInsertion ⟨i.columns, i.rows ++ [cellsOf i.columns pairs]⟩

/-- Sets the columns. -/
def insertColumns (q : Query) (columns : List String) : Query :=
  q.setInsertion { q.inserted with columns := columns }

/-- Appends a row of cells. -/
def insertValues (q : Query) (cells : List Param) : Query :=
  q.setInsertion { q.inserted with rows := q.inserted.rows ++ [cells] }

/-- Appends a row of pairs and asks for the key that its insertion makes. -/
def insertReturning (q : Query) (pairs : List (String × Param)) (sequence : Option String) :
    Query :=
  { q.insertRow pairs with sequence := some (sequence.getD "id") }

/-! ## Other changes -/

/-- Makes the statement an update that sets these columns, in this order. -/
def setAssignments (q : Query) (assignments : List (String × Param)) : Query :=
  { q with kind := .update, assignments := assignments }

/-- Makes the statement a deletion. -/
def makeDelete (q : Query) : Query :=
  { q with kind := .delete }

end Query

end SqlWeave
