import SqlWeave.Query.Bindings
import SqlWeave.Style.Basic

/-!
# Statements under construction

A `Query` describes one select, insert, update or delete.  Clauses that hold a statement of their
own — selected subqueries, predicates, joins, unions — own it, so a query is a finite tree.
-/

namespace SqlWeave

mutual

/-- A selected or grouped column. -/
inductive Column where
  | name (text : String)
  | raw (sql : String)
  | sub (query : Query) (label : String)

/-- A predicate on rows. -/
inductive Predicate where
  | compare (column operator : String) (operand : Param) (conjunction : Conjunction)
  | raw (sql : String) (conjunction : Conjunction)
  | isIn (column : String) (operands : List Param) (negated : Bool) (conjunction : Conjunction)
  | isInSub (column : String) (query : Query) (negated : Bool) (conjunction : Conjunction)
  | isNull (column : String) (negated : Bool) (conjunction : Conjunction)
  | between (column : String) (low high : Param) (negated : Bool) (conjunction : Conjunction)
  | nested (query : Query) (conjunction : Conjunction)
  | compareSub (column operator : String) (query : Query) (conjunction : Conjunction)
  | exists (query : Query) (negated : Bool) (conjunction : Conjunction)
  | columns (first operator second : String) (conjunction : Conjunction)

/-- A joined table and, as a query of its own, the predicates that join it. -/
structure Join where
  kind : JoinKind
  table : Table
  query : Query

/-- A united statement. -/
structure Arm where
  query : Query
  all : Bool

/-- A statement under construction. -/
structure Query where
  style : Style
  kind : StatementKind
  table : Option Table
  /-- The selected columns; without them, all. -/
  columns : Option (List Column)
  distinct : Bool
  aggregate : Option Aggregate
  joins : List Join
  predicates : List Predicate
  groups : List Column
  havings : List Having
  orders : List Order
  page : Page
  arms : List Arm
  /-- The ordering of the combined result of a union. -/
  unionOrders : List Order
  /-- The page of the combined result of a union. -/
  unionPage : Page
  lock : Option Lock
  bindings : Bindings
  insertion : Option Insertion
  assignments : List (String × Param)
  /-- The key column that an insertion is to report. -/
  sequence : Option String
  /-- Whether a select is to run where the data is changed. -/
  usesWriter : Bool
  /-- Whether the predicates are those of a join. -/
  isJoin : Bool
  /-- The first refusal met during construction. -/
  error : Option QueryError

end

namespace Predicate

/-- How the predicate is joined to the one before it. -/
def conjunction : Predicate → Conjunction
  | .compare _ _ _ c | .raw _ c | .isIn _ _ _ c | .isInSub _ _ _ c | .isNull _ _ c
  | .between _ _ _ _ c | .nested _ c | .compareSub _ _ _ c | .exists _ _ c
  | .columns _ _ _ c => c

end Predicate

namespace Query

/-! ## Empty queries -/

/-- The select without clauses. -/
def empty (s : Style) : Query where
  style := s
  kind := .select
  table := none
  columns := none
  distinct := false
  aggregate := none
  joins := []
  predicates := []
  groups := []
  havings := []
  orders := []
  page := .all
  arms := []
  unionOrders := []
  unionPage := .all
  lock := none
  bindings := .empty
  insertion := none
  assignments := []
  sequence := none
  usesWriter := false
  isJoin := false
  error := none

/-- The select of the same style on the same table, for predicates of the same kind. -/
def fresh (q : Query) : Query :=
  { empty q.style with table := q.table, isJoin := q.isJoin }

/-- The select of the same style without a table, for a subquery. -/
def freshSub (q : Query) : Query :=
  empty q.style

/-! ## Errors and values of parts -/

/-- Records a refusal, unless there is one already. -/
def fail (q : Query) (e : QueryError) : Query :=
  { q with error := q.error.or (some e) }

/-- Records the refusal of a part, if it has one. -/
def failWith (q : Query) (e : Option QueryError) : Query :=
  { q with error := q.error.or e }

/-- Appends values to a category. -/
def bindAll (q : Query) (c : Category) (values : List Value) : Query :=
  { q with bindings := q.bindings.extend c values }

/-- Appends the value of an operand to a category, if it has one. -/
def bind (q : Query) (c : Category) (p : Param) : Query :=
  q.bindAll c p.value?.toList

/-- Takes over the refusal and all values of a subquery. -/
def absorb (q sub : Query) (c : Category) : Query :=
  (q.failWith sub.error).bindAll c sub.bindings.flatten

/-- The refusal met during construction, as the result of a check. -/
def validate (q : Query) : Except QueryError Unit :=
  match q.error with
  | some e => .error e
  | none => .ok ()

/-- The values of a category given by its name. -/
def bindingsNamed (q : Query) (name : String) : Except QueryError (List Value) :=
  (Category.ofText name).map q.bindings.get

end Query

end SqlWeave
