import SqlWeave.Value.Basic

/-!
# Small clauses

The kinds, marks and settings that the clauses of a statement are made of, other than those that
hold a statement of their own.
-/

namespace SqlWeave

/-- What a statement does. -/
inductive StatementKind where
  | select
  | insert
  | update
  | delete
  deriving DecidableEq, Repr, Inhabited

namespace StatementKind

/-- The keyword of a kind. -/
def text : StatementKind → String
  | .select => "select"
  | .insert => "insert"
  | .update => "update"
  | .delete => "delete"

/-- Whether a statement of this kind changes data. -/
def isWrite : StatementKind → Bool
  | .select => false
  | _ => true

end StatementKind

/-- How a predicate is joined to the one before it. -/
inductive Conjunction where
  | and
  | or
  deriving DecidableEq, Repr

/-- The keyword of a conjunction. -/
def Conjunction.text : Conjunction → String
  | .and => "and"
  | .or => "or"

/-- The way of an ordering. -/
inductive Direction where
  | asc
  | desc
  deriving DecidableEq, Repr, Inhabited

/-- The keyword of a direction. -/
def Direction.text : Direction → String
  | .asc => "asc"
  | .desc => "desc"

/-- A term of an ordering. -/
inductive Order where
  | column (name : String) (direction : Direction)
  | raw (sql : String)
  | random (seed : Option String)
  deriving DecidableEq, Repr

/-- Which rows of a result are kept. -/
structure Page where
  limit : Option UInt64
  offset : Option UInt64
  deriving DecidableEq, Repr, Inhabited

namespace Page

/-- All rows. -/
def all : Page :=
  ⟨none, none⟩

/-- Whether all rows are kept. -/
def isAll (p : Page) : Bool :=
  p.limit.isNone && p.offset.isNone

end Page

/-- How the selected rows are locked. -/
inductive Lock where
  | exclusive
  | shared
  | custom (sql : String)
  deriving DecidableEq, Repr

/-- A function over columns in place of the selected columns. -/
structure Aggregate where
  function : String
  columns : List String
  deriving DecidableEq, Repr

/-- What kind of join it is. -/
inductive JoinKind where
  | inner
  | left
  | right
  | cross
  | outer
  deriving DecidableEq, Repr

/-- The keywords in front of the word join. -/
def JoinKind.text : JoinKind → String
  | .inner => "inner"
  | .left => "left"
  | .right => "right"
  | .cross => "cross"
  | .outer => "full outer"

/-- A predicate on groups. -/
inductive Having where
  | compare (column operator : String) (operand : Param) (conjunction : Conjunction)
  | raw (sql : String) (conjunction : Conjunction)
  | between (column : String) (low high : Param) (conjunction : Conjunction)

/-- How the predicate is joined to the one before it. -/
def Having.conjunction : Having → Conjunction
  | .compare _ _ _ c | .raw _ c | .between _ _ _ c => c

/-- The rows of an insertion, each of which has a cell for every column. -/
structure Insertion where
  columns : List String
  rows : List (List Param)

/-- The insertion before its first row. -/
def Insertion.none : Insertion :=
  ⟨[], []⟩

end SqlWeave
