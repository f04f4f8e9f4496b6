import SqlWeave.Query.Arrange
import SqlWeave.Query.Columns
import SqlWeave.Query.Filter
import SqlWeave.Query.Write

/-!
# Programs of calls

The calls that put a query together, as data.  A call that takes a builder takes a list of calls
instead, and one that takes a finished query takes the recipe of that query, so a program is a
finite tree and properties of all reachable queries are proved by recursion on it.

* `Call.run`, `Call.runAll` — what a call or a list of calls does to a query.
* `JoinCall.run` — the calls that may put together the predicates of a join.
* `Recipe.build` — the query of a style and calls.
-/

namespace SqlWeave

mutual

/-- A call on a query. -/
inductive Call where
  | onTable (name : String)
  | onRaw (sql : String)
  | select (columns : List Selection)
  | addColumns (columns : List Selection)
  | addRaw (sql : String) (values : List Value)
  | addSub (label : String) (calls : List Call)
  | makeDistinct
  | onWriter
  | whereEq (column : String) (operand : Param) (c : Conjunction)
  | whereCompare (column operator : String) (operand : Param) (c : Conjunction)
  | whereGroup (calls : List Call) (c : Conjunction)
  | whereAll (pairs : List (String × Param)) (c : Conjunction)
  | addGroup (recipe : Recipe) (c : Conjunction)
  | onlyIf (condition : Bool) (calls : List Call)
  | whereRaw (sql : String) (values : List Value) (c : Conjunction)
  | whereIn (column : String) (operands : List Param) (negated : Bool) (c : Conjunction)
  | whereInSub (column : String) (calls : List Call) (negated : Bool) (c : Conjunction)
  | whereNull (column : String) (negated : Bool) (c : Conjunction)
  | whereBetween (column : String) (low high : Param) (negated : Bool) (c : Conjunction)
  | whereSub (column operator : String) (calls : List Call) (c : Conjunction)
  | whereExists (calls : List Call) (negated : Bool) (c : Conjunction)
  | whereColumns (first operator second : String) (c : Conjunction)
  | addJoin (kind : JoinKind) (table : String) (calls : List JoinCall)
  | groupBy (columns : List Selection)
  | groupByRaw (sql : String)
  | having (column operator : String) (operand : Param) (c : Conjunction)
  | havingRaw (sql : String) (values : List Value) (c : Conjunction)
  | havingBetween (column : String) (low high : Param)
  | orderBy (column : String) (direction : Direction)
  | orderByText (column direction : String)
  | orderByRaw (sql : String) (values : List Value)
  | orderRandomly (seed : Option String)
  | setLimit (n : UInt64)
  | setOffset (n : UInt64)
  | forPage (page perPage : UInt64)
  | setLock (lock : Lock)
  | addArm (recipe : Recipe) (all : Bool)
  | addArmSub (all : Bool) (calls : List Call)
  | insertRow (pairs : List (String × Param))
  | insertColumns (columns : List String)
  | insertValues (cells : List Param)
  | insertReturning (pairs : List (String × Param)) (sequence : Option String)
  | setAssignments (assignments : List (String × Param))
  | makeDelete
  | toAggregate (function : String) (columns : List String)
  | toFresh

/-- A call on the predicates of a join. -/
inductive JoinCall where
  | on (first operator second : String) (c : Conjunction)
  | group (calls : List JoinCall)
  | whereEq (column : String) (operand : Param) (c : Conjunction)
  | whereCompare (column operator : String) (operand : Param) (c : Conjunction)
  | whereGroup (calls : List Call) (c : Conjunction)
  | whereAll (pairs : List (String × Param)) (c : Conjunction)
  | whereNull (column : String) (negated : Bool)
  | whereIn (column : String) (operands : List Param)
  | whereRaw (sql : String) (values : List Value)

/-- A column as a caller gives it. -/
inductive Selection where
  | name (text : String)
  | raw (sql : String)
  | sub (recipe : Recipe) (label : String)

/-- A style and the calls on an empty query of it. -/
structure Recipe where
  style : Style
  calls : List Call

end

mutual

/-- The query after a call. -/
def Call.run : Call → Query → Query
  | .onTable name, q => q.onTable name
  | .onRaw sql, q => q.onRaw sql
  | .select columns, q => q.select (Selection.columns columns)
  | .addColumns columns, q => q.addColumns (Selection.columns columns)
  | .addRaw sql values, q => q.addRaw sql values
  | .addSub label calls, q => q.addSub label fun sub => Call.runAll calls sub
  | .makeDistinct, q => q.makeDistinct
  | .onWriter, q => q.onWriter
  | .whereEq column operand c, q => q.whereEq column operand c
  | .whereCompare column operator operand c, q => q.whereCompare column operator operand c
  | .whereGroup calls c, q => q.whereGroup (fun inner => Call.runAll calls inner) c
  | .whereAll pairs c, q => q.whereAll pairs c
  | .addGroup recipe c, q => q.addGroup recipe.build c
  | .onlyIf condition calls, q => if condition then Call.runAll calls q else q
  | .whereRaw sql values c, q => q.whereRaw sql values c
  | .whereIn column operands negated c, q => q.whereIn column operands negated c
  | .whereInSub column calls negated c, q =>
    q.whereInSub column (fun sub => Call.runAll calls sub) negated c
  | .whereNull column negated c, q => q.whereNull column negated c
  | .whereBetween column low high negated c, q => q.whereBetween column low high negated c
  | .whereSub column operator calls c, q =>
    q.whereSub column operator (fun sub => Call.runAll calls sub) c
  | .whereExists calls negated c, q => q.whereExists (fun sub => Call.runAll calls sub) negated c
  | .whereColumns first operator second c, q => q.whereColumns first operator second c
  | .addJoin kind table calls, q => q.addJoin kind table fun inner => JoinCall.runAll calls inner
  | .groupBy columns, q => q.groupBy (Selection.columns columns)
  | .groupByRaw sql, q => q.groupByRaw sql
  | .having column operator operand c, q => q.having column operator operand c
  | .havingRaw sql values c, q => q.havingRaw sql values c
  | .havingBetween column low high, q => q.havingBetween column low high
  | .orderBy column direction, q => q.orderBy column direction
  | .orderByText column direction, q => q.orderByText column direction
  | .orderByRaw sql values, q => q.orderByRaw sql values
  | .orderRandomly seed, q => q.orderRandomly seed
  | .setLimit n, q => q.setLimit n
  | .setOffset n, q => q.setOffset n
  | .forPage page perPage, q => q.forPage page perPage
  | .setLock lock, q => q.setLock lock
  | .addArm recipe all, q => q.addArm recipe.build all
  | .addArmSub all calls, q => q.addArmSub all fun sub => Call.runAll calls sub
  | .insertRow pairs, q => q.insertRow pairs
  | .insertColumns columns, q => q.insertColumns columns
  | .insertValues cells, q => q.insertValues cells
  | .insertReturning pairs sequence, q => q.insertReturning pairs sequence
  | .setAssignments assignments, q => q.setAssignments assignments
  | .makeDelete, q => q.makeDelete
  | .toAggregate function columns, q => q.toAggregate function columns
  | .toFresh, q => q.fresh

/-- The query after several calls, the first of them first. -/
def Call.runAll : List Call → Query → Query
  | [], q => q
  | call :: calls, q => Call.runAll calls (call.run q)

/-- The predicates of a join after a call. -/
def JoinCall.run : JoinCall → Query → Query
  | .on first operator second c, q => q.whereColumns first operator second c
  | .group calls, q => q.whereGroup (fun inner => JoinCall.runAll calls inner) .and
  | .whereEq column operand c, q => q.whereEq column operand c
  | .whereCompare column operator operand c, q => q.whereCompare column operator operand c
  | .whereGroup calls c, q => q.whereGroup (fun inner => Call.runAll calls inner) c
  | .whereAll pairs c, q => q.whereAll pairs c
  | .whereNull column negated, q => q.whereNull column negated .and
  | .whereIn column operands, q => q.whereIn column operands false .and
  | .whereRaw sql values, q => q.whereRaw sql values .and

/-- The predicates of a join after several calls, the first of them first. -/
def JoinCall.runAll : List JoinCall → Query → Query
  | [], q => q
  | call :: calls, q => JoinCall.runAll calls (call.run q)

/-- The column that a caller means. -/
def Selection.column : Selection → Column
  | .name text => .name text
  | .raw sql => .raw sql
  | .sub recipe label => .sub recipe.build label

/-- The columns that a caller means. -/
def Selection.columns : List Selection → List Column
  | [] => []
  | c :: cs => c.column :: Selection.columns cs

/-- The query of a recipe. -/
def Recipe.build : Recipe → Query
  | ⟨style, calls⟩ => Call.runAll calls (Query.empty style)

end

end SqlWeave
