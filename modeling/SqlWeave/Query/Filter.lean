import SqlWeave.Query.Basic

/-!
# Predicates and joins

The predicates that rows must meet.  Each call appends at most one predicate, joined to those before
it by a conjunction, and appends the predicate's values to those of its category.

* A comparison with null becomes a test for null, or is refused.
* A comparison of a place inside a document with a truth value is written out, not bound.
* A group keeps only the predicates of the query it was built on, and is dropped without any.
* A subquery is built on an empty query of the same style and brings all its values along.
-/

namespace SqlWeave

namespace Query

/-- Appends a predicate. -/
def addPredicate (q : Query) (p : Predicate) : Query :=
  { q with predicates := q.predicates ++ [p] }

/-! ## Comparisons -/

/-- Tests a column for null. -/
def whereNull (q : Query) (column : String) (negated : Bool) (c : Conjunction) : Query :=
  q.addPredicate (.isNull column negated c)

/-- A truth value as an operand of a comparison with `column`: inside a document it is written
out. -/
def operandFor (column : String) : Param → Param
  | .value (.bool b) => if Text.hasArrow column then .raw (if b then "true" else "false")
    else .value (.bool b)
  | p => p

/-- Compares a column by an operator, whatever its case. -/
def addComparison (q : Query) (column operator : String) (operand : Param) (c : Conjunction) :
    Query :=
  let operator := Text.lower operator
  if operand.isNull then
    if operator = "=" then q.whereNull column false c
    else if operator = "<>" ∨ operator = "!=" then q.whereNull column true c
    else q.fail (.nullComparison operator)
  else
    let operand := operandFor column operand
    (q.bind .filter operand).addPredicate (.compare column operator operand c)

/-- Compares a column for equality. -/
def whereEq (q : Query) (column : String) (operand : Param) (c : Conjunction) : Query :=
  q.addComparison column "=" operand c

/-- Compares a column by an operator; one that the dialect does not know is itself the value, and
is compared for equality. -/
def whereCompare (q : Query) (column operator : String) (operand : Param) (c : Conjunction) :
    Query :=
  if q.style.knows operator then q.addComparison column operator operand c
  else q.addComparison column "=" (.value (.text operator)) c

/-! ## Groups -/

/-- Appends the predicates of another query as one group.  Only they are written, so only their
values are taken; the refusal of the other query is taken in any case. -/
def addGroup (q inner : Query) (c : Conjunction) : Query :=
  let q := q.failWith inner.error
  if inner.predicates.isEmpty then q
  else (q.bindAll .filter (inner.bindings.get .filter)).addPredicate (.nested inner c)

/-- Appends the predicates that `build` makes as one group. -/
def whereGroup (q : Query) (build : Query → Query) (c : Conjunction) : Query :=
  q.addGroup (build q.fresh) c

/-- Compares several columns for equality in one group, inside of which the conjunction is the
same as before it. -/
def whereAll (q : Query) (pairs : List (String × Param)) (c : Conjunction) : Query :=
  q.whereGroup (fun inner => pairs.foldl (fun q pair => q.whereEq pair.1 pair.2 c) inner) c

/-! ## Other predicates -/

/-- Appends SQL text with its values. -/
def whereRaw (q : Query) (sql : String) (values : List Value) (c : Conjunction) : Query :=
  (q.bindAll .filter values).addPredicate (.raw sql c)

/-- Tests whether a column has one of several values. -/
def whereIn (q : Query) (column : String) (operands : List Param) (negated : Bool)
    (c : Conjunction) : Query :=
  (q.bindAll .filter (Param.values operands)).addPredicate (.isIn column operands negated c)

/-- Tests whether a column has one of the values of a subquery. -/
def whereInSub (q : Query) (column : String) (build : Query → Query) (negated : Bool)
    (c : Conjunction) : Query :=
  let sub := build q.freshSub
  (q.absorb sub .filter).addPredicate (.isInSub column sub negated c)

/-- Tests whether a column lies between two operands. -/
def whereBetween (q : Query) (column : String) (low high : Param) (negated : Bool)
    (c : Conjunction) : Query :=
  ((q.bind .filter low).bind .filter high).addPredicate (.between column low high negated c)

/-- Compares a column with the value of a subquery.  Nothing is built under an operator that the
dialect does not know. -/
def whereSub (q : Query) (column operator : String) (build : Query → Query) (c : Conjunction) :
    Query :=
  if q.style.knows operator then
    let sub := build q.freshSub
    (q.absorb sub .filter).addPredicate (.compareSub column (Text.lower operator) sub c)
  else q.fail (.unknownOperator operator)

/-- Tests whether a subquery has rows. -/
def whereExists (q : Query) (build : Query → Query) (negated : Bool) (c : Conjunction) : Query :=
  let sub := build q.freshSub
  (q.absorb sub .filter).addPredicate (.exists sub negated c)

/-- Compares two columns. -/
def whereColumns (q : Query) (first operator second : String) (c : Conjunction) : Query :=
  if q.style.knows operator then
    q.addPredicate (.columns first (Text.lower operator) second c)
  else q.fail (.unknownOperator operator)

/-! ## Joins -/

/-- The query of the same style that is marked as a join of a table. -/
def freshJoin (q : Query) (table : String) : Query :=
  { q.freshSub with table := some (.named table), isJoin := true }

/-- Joins a table by the predicates that `build` makes on a query marked as a join. -/
def addJoin (q : Query) (kind : JoinKind) (table : String) (build : Query → Query) : Query :=
  let inner := build (q.freshJoin table)
  let q := q.absorb inner .join
  { q with joins := q.joins ++ [⟨kind, .named table, inner⟩] }

/-- Joins a table where two columns compare. -/
def join (q : Query) (kind : JoinKind) (table first operator second : String) : Query :=
  q.addJoin kind table fun inner => inner.whereColumns first operator second .and

end Query

end SqlWeave
