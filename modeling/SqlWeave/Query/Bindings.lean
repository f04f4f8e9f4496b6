import SqlWeave.Query.Error

/-!
# Bindings

The values of a statement, kept by the clause that they belong to, so that calls may come in any
order and the values still come out in the order of the placeholders.

The values of the united statements and those of an ordering of the union share one category, as
all of them come after the rest.  The latter are always its tail, and `unionTail` says how long that
tail is.

* `Bindings.extend`, `Bindings.extendUnionOrder`, `Bindings.set` — the three ways to change them.
* `Bindings.flatten` — all values in the order of the categories.
-/

namespace SqlWeave

/-- The clause that a value belongs to. -/
inductive Category where
  | select
  | join
  | filter
  | having
  | order
  | union
  deriving DecidableEq, Repr

namespace Category

/-- The categories in the order in which their placeholders are written. -/
def all : List Category :=
  [.select, .join, .filter, .having, .order, .union]

/-- The name of a category. -/
def text : Category → String
  | .select => "select"
  | .join => "join"
  | .filter => "where"
  | .having => "having"
  | .order => "order"
  | .union => "union"

/-- Reads the name of a category in any case. -/
def ofText (s : String) : Except QueryError Category :=
  match all.find? fun c => c.text = Text.lower s with
  | some c => .ok c
  | none => .error (.unknownCategory s)

end Category

/-- The values of each category. -/
structure Bindings where
  select : List Value
  join : List Value
  filter : List Value
  having : List Value
  order : List Value
  union : List Value
  /-- How many values at the end of `union` belong to an ordering of the union. -/
  unionTail : Nat

namespace Bindings

/-- No values. -/
def empty : Bindings :=
  ⟨[], [], [], [], [], [], 0⟩

/-- The values of a category. -/
def get (b : Bindings) : Category → List Value
  | .select => b.select
  | .join => b.join
  | .filter => b.filter
  | .having => b.having
  | .order => b.order
  | .union => b.union

/-- Exchanges the values of a category and nothing else. -/
def put (b : Bindings) (c : Category) (values : List Value) : Bindings :=
  match c with
  | .select => { b with select := values }
  | .join => { b with join := values }
  | .filter => { b with filter := values }
  | .having => { b with having := values }
  | .order => { b with order := values }
  | .union => { b with union := values }

/-- Appends to a category.  The values of a united statement go before those of the ordering of
the union. -/
def extend (b : Bindings) (c : Category) (values : List Value) : Bindings :=
  if c = .union ∧ 0 < b.unionTail then
    let start := b.union.length - b.unionTail
    b.put c (b.union.take start ++ values ++ b.union.drop start)
  else b.put c (b.get c ++ values)

/-- Appends one value to a category. -/
def push (b : Bindings) (c : Category) (value : Value) : Bindings :=
  b.extend c [value]

/-- Appends values of the ordering of the union. -/
def extendUnionOrder (b : Bindings) (values : List Value) : Bindings :=
  { b with union := b.union ++ values, unionTail := b.unionTail + values.length }

/-- Exchanges the values of a category; new union values have no tail. -/
def set (b : Bindings) (c : Category) (values : List Value) : Bindings :=
  { b.put c values with unionTail := if c = .union then 0 else b.unionTail }

/-- Removes the values of a category. -/
def clear (b : Bindings) (c : Category) : Bindings :=
  b.set c []

/-- All values in the order of the categories. -/
def flatten (b : Bindings) : List Value :=
  Category.all.flatMap b.get

/-- The number of values. -/
def size (b : Bindings) : Nat :=
  (Category.all.map fun c => (b.get c).length).foldr (· + ·) 0

/-- Whether there are no values. -/
def isEmpty (b : Bindings) : Bool :=
  Category.all.all fun c => (b.get c).isEmpty

end Bindings

end SqlWeave
