import SqlWeave.Query.Write
import SqlWeave.Sql.Select

/-!
# Insertions, updates and deletions

Each dialect puts the parts of a change into its own order, and the values come in the order in
which their placeholders are written.

* `Style.insert`, `Style.insertReturning` — rows of cells, and the key that the insertion makes.
* `Style.update` — assignments, which stand before or after the joins.
* `Style.delete` — a deletion, with joins where the dialect has such a statement.
* `Query.compile` — the finished statement of any kind.
-/

namespace SqlWeave

namespace Style

/-! ## Parts of changes -/

/-- The joins of a query. -/
def joinsSql (s : Style) (q : Query) : Except QueryError String :=
  (s.joinTexts q.joins).map " ".intercalate

/-- The predicates of a query behind their keyword. -/
def filterSql (s : Style) (q : Query) : Except QueryError String :=
  (s.predicateTexts q.predicates).map (predicateSql q.isJoin)

/-- The assignments of an update and the values that they bind. -/
def assignmentList (s : Style) (q : Query) : Except QueryError (String × List Value) :=
  if q.assignments.isEmpty then .error .noAssignments
  else
    let written := q.assignments.map fun a => s.assignment a.1 a.2
    .ok (", ".intercalate (written.map (·.1)), written.flatMap (·.2))

/-- Ordering and limit of a change to one table. -/
def changeTail (s : Style) (q : Query) : String :=
  let page : Page := ⟨q.page.limit, none⟩
  Text.phrase [s.ordering q.orders page, s.limitSql page]

/-! ## Insertions -/

/-- A row of cells, of which there must be `columns`. -/
def rowSql (columns : Nat) (row : List Param) : Except QueryError String :=
  if row.length = columns then .ok ("(" ++ Param.listSql row ++ ")")
  else .error (.rowWidth columns row.length)

/-- An insertion of rows. -/
def insert (s : Style) (q : Query) : Except QueryError Statement := do
  let table ← q.requireTable
  let i := q.inserted
  if i.columns.isEmpty ∨ i.rows.isEmpty then throw .emptyInsertion
  let rows ← i.rows.mapM (rowSql i.columns.length)
  pure {
    sql := "insert into " ++ s.tableSql table ++ " (" ++ s.columnList i.columns ++ ") values "
      ++ ", ".intercalate rows
    values := i.rows.flatMap Param.values }

/-- An insertion that reports its key in the column `sequence`: where the dialect can, the statement
itself returns it. -/
def insertReturning (s : Style) (q : Query) (sequence : String) : Except QueryError Statement :=
  match s.dialect with
  | .postgres =>
    (s.insert q).map fun built =>
      { built with sql := built.sql ++ " returning " ++ s.column sequence }
  | _ => s.insert q

/-! ## Updates -/

/-- An update.  One dialect joins before it assigns and may order and limit what it changes, one
joins after it assigns and names the table twice, and the others join at the end. -/
def update (s : Style) (q : Query) : Except QueryError Statement := do
  let table ← q.requireTable
  let (set, values) ← s.assignmentList q
  let joins ← s.joinsSql q
  let filter ← s.filterSql q
  let name := s.tableSql table
  if s.dialect = .mysql then
    pure {
      sql := Text.phrase ["update " ++ name, joins, "set " ++ set, filter, s.changeTail q]
      values := q.bindings.join ++ values ++ q.bindings.filter ++ q.bindings.order }
  else if s.dialect = .sqlServer ∧ ¬ q.joins.isEmpty then
    pure {
      sql := Text.phrase ["update " ++ s.tableAlias table ++ " set " ++ set, "from " ++ name,
        joins, filter]
      values := values ++ q.bindings.join ++ q.bindings.filter }
  else
    pure {
      sql := Text.phrase ["update " ++ name ++ " set " ++ set, joins, filter]
      values := values ++ q.bindings.join ++ q.bindings.filter }

/-! ## Deletions -/

/-- A deletion from a joined table. -/
def deleteJoined (s : Style) (q : Query) (table : Table) : Except QueryError Statement := do
  let joins ← s.joinsSql q
  let filter ← s.filterSql q
  pure {
    sql := Text.phrase ["delete " ++ s.tableAlias table ++ " from " ++ s.tableSql table, joins,
      filter]
    values := q.bindings.join ++ q.bindings.filter }

/-- A deletion from one table, which one dialect may order and limit. -/
def deletePlain (s : Style) (q : Query) (table : Table) : Except QueryError Statement := do
  let filter ← s.filterSql q
  let start := "delete from " ++ s.tableSql table
  if s.dialect = .mysql then
    pure {
      sql := Text.phrase [start, filter, s.changeTail q]
      values := q.bindings.filter ++ q.bindings.order }
  else pure { sql := Text.phrase [start, filter], values := q.bindings.filter }

/-- A deletion.  Joins are refused where the dialect has no statement for them. -/
def delete (s : Style) (q : Query) : Except QueryError Statement := do
  let table ← q.requireTable
  if q.joins.isEmpty then s.deletePlain q table
  else if s.dialect = .mysql ∨ s.dialect = .sqlServer then s.deleteJoined q table
  else throw (.joinedDelete s.dialect)

end Style

namespace Query

/-- The finished statement of a query, or the first refusal met while it was put together. -/
def compile (q : Query) : Except QueryError Statement := do
  q.validate
  match q.kind with
  | .select => q.style.select q
  | .insert =>
    match q.sequence with
    | some sequence => q.style.insertReturning q sequence
    | none => q.style.insert q
  | .update => q.style.update q
  | .delete => q.style.delete q

/-- The text of the finished statement. -/
def toSql (q : Query) : Except QueryError String :=
  q.compile.map (·.sql)

end Query

end SqlWeave
