import SqlWeave.Query.Basic

/-!
# Groups, order, pages and unions

How the rows of a select are grouped, ordered, cut and united.  Once a query has a union, orderings
and pages are those of the combined result.

* `Query.addOrder`, `Query.setLimit`, `Query.setOffset` — ordering and page of the query or of
  the union, whichever is meant.
* `Query.addArm` — a united statement.
* `Query.toAggregate` — the query whose result is a function over this one's rows.
-/

namespace SqlWeave

namespace Query

/-! ## Groups -/

/-- Appends grouped columns. -/
def groupBy (q : Query) (columns : List Column) : Query :=
  { q with groups := q.groups ++ columns }

/-- Appends SQL text to the grouped columns. -/
def groupByRaw (q : Query) (sql : String) : Query :=
  q.groupBy [.raw sql]

/-- Appends a predicate on groups. -/
def addHaving (q : Query) (h : Having) : Query :=
  { q with havings := q.havings ++ [h] }

/-- Compares a column of a group; an operator that the dialect does not know is itself the value,
and is compared for equality. -/
def having (q : Query) (column operator : String) (operand : Param) (c : Conjunction) : Query :=
  if q.style.knows operator then
    (q.bind .having operand).addHaving (.compare column (Text.lower operator) operand c)
  else
    let operand := .value (.text operator)
    (q.bind .having operand).addHaving (.compare column "=" operand c)

/-- Appends SQL text with its values as a predicate on groups. -/
def havingRaw (q : Query) (sql : String) (values : List Value) (c : Conjunction) : Query :=
  (q.bindAll .having values).addHaving (.raw sql c)

/-- Tests whether a column of a group lies between two operands. -/
def havingBetween (q : Query) (column : String) (low high : Param) : Query :=
  ((q.bind .having low).bind .having high).addHaving (.between column low high .and)

/-! ## Order -/

/-- Whether there is a union. -/
def hasUnion (q : Query) : Bool :=
  !q.arms.isEmpty

/-- Appends a term to the ordering of the query, or of the union if there is one. -/
def addOrder (q : Query) (o : Order) : Query :=
  if q.hasUnion then { q with unionOrders := q.unionOrders ++ [o] }
  else { q with orders := q.orders ++ [o] }

/-- Orders by a column. -/
def orderBy (q : Query) (column : String) (d : Direction) : Query :=
  q.addOrder (.column column d)

/-- Orders by a column in a direction given as text. -/
def orderByText (q : Query) (column direction : String) : Query :=
  match Direction.ofText direction with
  | .ok d => q.orderBy column d
  | .error e => q.fail e

/-- Orders by SQL text with its values. -/
def orderByRaw (q : Query) (sql : String) (values : List Value) : Query :=
  let bindings := if q.hasUnion then q.bindings.extendUnionOrder values
    else q.bindings.extend .order values
  { q with bindings := bindings }.addOrder (.raw sql)

/-- Orders at random. -/
def orderRandomly (q : Query) (seed : Option String) : Query :=
  q.addOrder (.random seed)

/-! ## Pages -/

/-- Keeps at most `n` rows. -/
def setLimit (q : Query) (n : UInt64) : Query :=
  if q.hasUnion then { q with unionPage := { q.unionPage with limit := some n } }
  else { q with page := { q.page with limit := some n } }

/-- Leaves out the first `n` rows. -/
def setOffset (q : Query) (n : UInt64) : Query :=
  if q.hasUnion then { q with unionPage := { q.unionPage with offset := some n } }
  else { q with page := { q.page with offset := some n } }

/-- The number of rows before a page, the pages being counted from one; it stops at the largest
number of 64 bits. -/
def rowsBefore (page perPage : UInt64) : UInt64 :=
  UInt64.ofNat (min ((max page.toNat 1 - 1) * perPage.toNat) (Nat.pow 2 64 - 1))

/-- Keeps the rows of one page. -/
def forPage (q : Query) (page perPage : UInt64) : Query :=
  (q.setOffset (rowsBefore page perPage)).setLimit perPage

/-! ## Locks -/

/-- Locks the selected rows. -/
def setLock (q : Query) (l : Lock) : Query :=
  { q with lock := some l }

/-! ## Unions -/

/-- Unites the query with another one. -/
def addArm (q arm : Query) (all : Bool) : Query :=
  let q := q.absorb arm .union
  { q with arms := q.arms ++ [⟨arm, all⟩] }

/-- Unites the query with the one that `build` makes. -/
def addArmSub (q : Query) (all : Bool) (build : Query → Query) : Query :=
  q.addArm (build q.freshSub) all

/-! ## Aggregates -/

/-- The query of a function over the rows of this one.  The selected columns have no part in it,
and without groups neither has the ordering. -/
def toAggregate (q : Query) (function : String) (columns : List String) : Query :=
  let bindings := q.bindings.clear .select
  let q := { q with
    kind := .select
    columns := none
    bindings := bindings
    aggregate := some ⟨function, columns⟩ }
  if q.groups.isEmpty then { q with orders := [], bindings := bindings.clear .order } else q

/-- The query of the number of rows. -/
def toCount (q : Query) : Query :=
  q.toAggregate "count" ["*"]

end Query

end SqlWeave
