import SqlWeave.Query.Basic

/-!
# Target and columns

What a statement is about: its table, and which columns a select yields.
-/

namespace SqlWeave

namespace Query

/-- Sets the table, which may have an alias. -/
def onTable (q : Query) (name : String) : Query :=
  { q with table := some (.named name) }

/-- Sets SQL text in place of the table. -/
def onRaw (q : Query) (sql : String) : Query :=
  { q with table := some (.raw sql) }

/-- Makes the statement a select of just these columns. -/
def select (q : Query) (columns : List Column) : Query :=
  { q with
    kind := .select
    columns := some columns
    bindings := q.bindings.clear .select }

/-- Appends columns. -/
def addColumns (q : Query) (columns : List Column) : Query :=
  { q with columns := some (q.columns.getD [] ++ columns) }

/-- Appends SQL text with its values. -/
def addRaw (q : Query) (sql : String) (values : List Value) : Query :=
  (q.addColumns [.raw sql]).bindAll .select values

/-- Appends the subquery that `build` makes. -/
def addSub (q : Query) (label : String) (build : Query → Query) : Query :=
  let sub := build q.freshSub
  (q.absorb sub .select).addColumns [.sub sub label]

/-- Leaves out repeated rows. -/
def makeDistinct (q : Query) : Query :=
  { q with distinct := true }

/-- Runs the select where the data is changed. -/
def onWriter (q : Query) : Query :=
  { q with usesWriter := true }

end Query

end SqlWeave
