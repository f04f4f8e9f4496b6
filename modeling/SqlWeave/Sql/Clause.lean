import SqlWeave.Query.Basic
import SqlWeave.Text.Phrase

/-!
# Clauses without subqueries

How each dialect writes orderings, pages, locks, predicates on groups and assignments.  An absent
clause is the empty text, which a phrase leaves out.
-/

namespace SqlWeave

namespace Text

/-- Drops one conjunction, in any case, and the blank after it from the front of a text. -/
def stripConjunction (s : String) : String :=
  let lowered := s.toList.map Char.toLower
  if "and ".toList.isPrefixOf lowered then String.ofList (s.toList.drop 4)
  else if "or ".toList.isPrefixOf lowered then String.ofList (s.toList.drop 3)
  else s

/-- A keyword and predicates, each written after its own conjunction; the first conjunction is
then dropped.  Without predicates there is no keyword either. -/
def predicateList (keyword : String) (predicates : List (Conjunction × String)) : String :=
  if predicates.isEmpty then ""
  else keyword ++ " "
    ++ stripConjunction (" ".intercalate (predicates.map fun p => p.1.text ++ " " ++ p.2))

end Text

namespace Style

/-! ## Ordering -/

/-- The dialect's random order. -/
def randomSql (s : Style) (seed : Option String) : String :=
  match s.dialect with
  | .mysql => "rand(" ++ seed.getD "" ++ ")"
  | .sqlServer => "newid()"
  | .ansi | .postgres | .sqlite => "random()"

/-- A term of an ordering. -/
def orderSql (s : Style) : Order → String
  | .column name direction => s.column name ++ " " ++ direction.text
  | .raw sql => sql
  | .random seed => s.randomSql seed

/-- The terms of an ordering. -/
def orderList (s : Style) (orders : List Order) : String :=
  if orders.isEmpty then ""
  else "order by " ++ ", ".intercalate (orders.map s.orderSql)

/-- An ordering that makes a page possible where the dialect allows none without. -/
def anyOrder : String :=
  "order by (select 0)"

/-- The ordering of a query with the given page. -/
def ordering (s : Style) (orders : List Order) (p : Page) : String :=
  if s.dialect = .sqlServer ∧ orders.isEmpty ∧ p.offset.isSome then anyOrder
  else s.orderList orders

/-! ## Pages -/

/-- The largest limit, which stands for none where an offset needs a limit. -/
def endlessLimit : String :=
  "18446744073709551615"

/-- The limit of a page. -/
def limitSql (s : Style) (p : Page) : String :=
  match s.dialect, p.limit, p.offset with
  | .sqlServer, _, _ => ""
  | _, some n, _ => "limit " ++ toString n.toNat
  | .mysql, none, some _ => "limit " ++ endlessLimit
  | .sqlite, none, some _ => "limit -1"
  | _, none, _ => ""

/-- An offset and, if there is a limit, the number of rows to fetch after it. -/
def offsetFetch (offset : UInt64) (limit : Option UInt64) : String :=
  let start := "offset " ++ toString offset.toNat ++ " rows"
  match limit with
  | some n => start ++ " fetch next " ++ toString n.toNat ++ " rows only"
  | none => start

/-- The offset of a page. -/
def offsetSql (s : Style) (p : Page) : String :=
  match p.offset with
  | none => ""
  | some n =>
    if s.dialect = .sqlServer then offsetFetch n p.limit else "offset " ++ toString n.toNat

/-- The limit of a page without offset where the dialect writes it after the first keyword. -/
def topSql (s : Style) (p : Page) : String :=
  match s.dialect, p.limit, p.offset with
  | .sqlServer, some n, none => " top " ++ toString n.toNat
  | _, _, _ => ""

/-- Ordering and page of the combined result of a union. -/
def unionTail (s : Style) (q : Query) : String :=
  let p := q.unionPage
  if s.dialect = .sqlServer then
    if p.isAll then s.orderList q.unionOrders
    else
      let order := if q.unionOrders.isEmpty then anyOrder else s.orderList q.unionOrders
      Text.phrase [order, offsetFetch (p.offset.getD 0) p.limit]
  else Text.phrase [s.ordering q.unionOrders p, s.limitSql p, s.offsetSql p]

/-- Whether united statements stand in parentheses. -/
def wrapsArms (s : Style) : Bool :=
  s.dialect = .mysql || s.dialect = .postgres

/-! ## Locks -/

/-- The lock at the end of a select. -/
def lockSql (s : Style) (l : Lock) : String :=
  match s.dialect, l with
  | .sqlServer, _ => ""
  | _, .custom sql => sql
  | .mysql, .exclusive => "for update"
  | .mysql, .shared => "lock in share mode"
  | .postgres, .exclusive => "for update"
  | .postgres, .shared => "for share"
  | _, _ => ""

/-- The lock as a hint after the table. -/
def lockHint (s : Style) (l : Option Lock) : String :=
  match s.dialect, l with
  | .sqlServer, some .exclusive => " with(rowlock,updlock,holdlock)"
  | .sqlServer, some .shared => " with(rowlock,holdlock)"
  | .sqlServer, some (.custom hint) => " " ++ hint
  | _, _ => ""

/-- The table of a select with its lock hint. -/
def fromSql (s : Style) (t : Table) (l : Option Lock) : String :=
  "from " ++ s.tableSql t ++ s.lockHint l

/-! ## Aggregates -/

/-- A function over columns.  Without columns it is over all, and a distinct query takes each
combination of columns once. -/
def aggregateCall (s : Style) (distinct : Bool) (a : Aggregate) : String :=
  let columns := s.columnList a.columns
  let columns := if columns.isEmpty then "*" else columns
  let columns := if distinct ∧ columns ≠ "*" then "distinct " ++ columns else columns
  " " ++ a.function ++ "(" ++ columns ++ ") as aggregate"

/-! ## Predicates on groups -/

/-- A predicate on groups. -/
def havingSql (s : Style) : Having → String
  | .compare column operator operand _ => s.column column ++ " " ++ operator ++ " " ++ operand.sql
  | .raw sql _ => sql
  | .between column low high _ =>
    s.column column ++ " between " ++ low.sql ++ " and " ++ high.sql

/-- The predicates on groups. -/
def havingList (s : Style) (havings : List Having) : String :=
  Text.predicateList "having" (havings.map fun h => (h.conjunction, s.havingSql h))

/-! ## Assignments -/

/-- A value written into the text of a document assignment, if it is a truth value or a number. -/
def inlineNumber? : Param → Option String
  | .value (.bool b) => some (if b then "true" else "false")
  | .value (.int n) => some (toString n.toInt)
  | .value (.uint n) => some (toString n.toNat)
  | .value (.float x) => some x.plainText
  | _ => none

/-- An assignment to a column and the value that it binds, if it binds one. -/
def plainAssignment (s : Style) (column : String) (operand : Param) : String × List Value :=
  (s.column column ++ " = " ++ operand.sql, operand.value?.toList)

/-- An assignment to a place inside a document rewrites the document. -/
def documentAssignment (s : Style) (field : String) (path : List String) (operand : Param) :
    String × List Value :=
  let field := s.column field
  let (written, values) := match inlineNumber? operand with
    | some written => (written, [])
    | none => (operand.sql, operand.value?.toList)
  (field ++ " = json_set(" ++ field ++ ", " ++ quotedPath path ++ ", " ++ written ++ ")", values)

/-- An assignment. -/
def assignment (s : Style) (column : String) (operand : Param) : String × List Value :=
  match s.dialect, Text.arrowPieces column with
  | .mysql, field :: step :: path => s.documentAssignment field (step :: path) operand
  | _, _ => s.plainAssignment column operand

end Style

end SqlWeave
