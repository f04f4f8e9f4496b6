import SqlWeave.Sql.Clause
import SqlWeave.Sql.Statement

/-!
# Selects

The text of a select, by recursion on the query tree.  Whatever a query embeds is written in the
style of the outermost query.

* `Style.assemble` — a select from the texts of its parts; it says which parts are needed, so that
  a part that cannot be written does harm only where it is written.
* `Style.selectText` — the text of a query, and with it of its columns, predicates, joins and
  united statements.
* `Style.select` — the finished statement.
-/

namespace SqlWeave

/-- The texts of the parts of a query, each of which may be refused. -/
structure SelectParts where
  columns : Except QueryError (List String)
  joins : Except QueryError (List String)
  predicates : Except QueryError (List (Conjunction × String))
  groups : Except QueryError (List String)
  arms : Except QueryError (List (Bool × String))

/-- The table of a query; without one, no statement can be written. -/
def Query.requireTable (q : Query) : Except QueryError Table :=
  match q.table with
  | some t => .ok t
  | none => .error (.noTable q.kind)

namespace Style

/-! ## Putting parts together -/

/-- The keyword in front of predicates. -/
def predicateKeyword (isJoin : Bool) : String :=
  if isJoin then "on" else "where"

/-- The predicates of a query behind their keyword. -/
def predicateSql (isJoin : Bool) (predicates : List (Conjunction × String)) : String :=
  Text.predicateList (predicateKeyword isJoin) predicates

/-- A group is the list of its predicates without the keyword, in parentheses. -/
def groupSql (isJoin : Bool) (predicates : List (Conjunction × String)) : String :=
  let list := (predicateSql isJoin predicates).toList
  "(" ++ String.ofList (list.drop ((predicateKeyword isJoin).length + 1)) ++ ")"

/-- The grouped columns. -/
def groupList (columns : List String) : String :=
  if columns.isEmpty then "" else "group by " ++ ", ".intercalate columns

/-- Adds a united statement to the text of those before it. -/
def addArmSql (s : Style) (sql : String) (arm : Bool × String) : String :=
  let keyword := if arm.1 then "union all" else "union"
  if s.wrapsArms then sql ++ " " ++ keyword ++ " (" ++ arm.2 ++ ")"
  else sql ++ " " ++ keyword ++ " " ++ arm.2

/-- The text of a union. -/
def unionSql (s : Style) (q : Query) (base : String) (arms : List (Bool × String)) : String :=
  let start := if s.wrapsArms then "(" ++ base ++ ")" else base
  Text.phrase [arms.foldl s.addArmSql start, s.unionTail q]

/-- The first words of a select with a list of columns. -/
def columnsHead (s : Style) (q : Query) (columns : List String) : String :=
  "select" ++ (if q.distinct then " distinct" else "") ++ s.topSql q.page ++ " "
    ++ ", ".intercalate columns

/-- The first words of a select with a function over columns. -/
def aggregateHead (s : Style) (q : Query) (a : Aggregate) : String :=
  "select" ++ s.topSql q.page ++ s.aggregateCall q.distinct a

/-- A select with its own clauses and united statements, where `aggregate` takes the place of the
columns if it is given. -/
def assembleWith (s : Style) (q : Query) (table : Table) (aggregate : Option Aggregate)
    (parts : SelectParts) : Except QueryError String := do
  let head ← match aggregate with
    | some a => pure (s.aggregateHead q a)
    | none => (parts.columns).map (s.columnsHead q)
  let joins ← parts.joins
  let predicates ← parts.predicates
  let groups ← parts.groups
  let base := Text.phrase [head, s.fromSql table q.lock, " ".intercalate joins,
    predicateSql q.isJoin predicates, groupList groups, s.havingList q.havings,
    s.ordering q.orders q.page, s.limitSql q.page, s.offsetSql q.page]
  let sql ← if !q.arms.isEmpty then (parts.arms).map (s.unionSql q base) else pure base
  match q.lock with
  | some l => pure (Text.phrase [sql, s.lockSql l])
  | none => pure sql

/-- A select.  A function over the rows of a union is taken from the union as a derived table. -/
def assemble (s : Style) (q : Query) (parts : SelectParts) : Except QueryError String := do
  let table ← q.requireTable
  match q.aggregate with
  | some a =>
    if !q.arms.isEmpty then
      (s.assembleWith q table none parts).map fun sql =>
        "select" ++ s.aggregateCall q.distinct a ++ " from (" ++ sql ++ ") as "
          ++ s.segment "temp_table"
    else s.assembleWith q table (some a) parts
  | none => s.assembleWith q table none parts

/-! ## The recursion -/

mutual

/-- The text of a select. -/
def selectText (s : Style) : Query → Except QueryError String
  | q@⟨_, _, _, columns, _, _, joins, predicates, groups, _, _, _, arms, _, _, _, _, _, _, _, _, _,
      _⟩ =>
    s.assemble q {
      columns := s.selectedTexts columns
      joins := s.joinTexts joins
      predicates := s.predicateTexts predicates
      groups := s.columnTexts groups
      arms := s.armTexts arms }

/-- The texts of the selected columns; without any, all are selected. -/
def selectedTexts (s : Style) : Option (List Column) → Except QueryError (List String)
  | none => .ok [s.column "*"]
  | some columns => s.columnTexts columns

/-- The texts of columns. -/
def columnTexts (s : Style) : List Column → Except QueryError (List String)
  | [] => .ok []
  | c :: cs => do
    let text ← s.columnText c
    let texts ← s.columnTexts cs
    pure (text :: texts)

/-- The text of a column. -/
@[simp] def columnText (s : Style) : Column → Except QueryError String
  | .name text => .ok (s.column text)
  | .raw sql => .ok sql
  | .sub query label =>
    (s.selectText query).map fun sql => "(" ++ sql ++ ") as " ++ s.segment label

/-- The texts of joins. -/
def joinTexts (s : Style) : List Join → Except QueryError (List String)
  | [] => .ok []
  | j :: js => do
    let text ← s.joinText j
    let texts ← s.joinTexts js
    pure (text :: texts)

/-- The text of a join: its keywords, its table and its predicates. -/
@[simp] def joinText (s : Style) : Join → Except QueryError String
  | ⟨kind, table, query⟩ =>
    (s.ownPredicateTexts query).map fun predicates =>
      Text.phrase [kind.text ++ " join", s.tableSql table, predicateSql query.isJoin predicates]

/-- The conjunctions and texts of the predicates of a query. -/
@[simp] def ownPredicateTexts (s : Style) : Query → Except QueryError (List (Conjunction × String))
  | ⟨_, _, _, _, _, _, _, predicates, _, _, _, _, _, _, _, _, _, _, _, _, _, _, _⟩ =>
    s.predicateTexts predicates

/-- The conjunctions and texts of predicates. -/
def predicateTexts (s : Style) :
    List Predicate → Except QueryError (List (Conjunction × String))
  | [] => .ok []
  | p :: ps => do
    let text ← s.predicateText p
    let texts ← s.predicateTexts ps
    pure ((p.conjunction, text) :: texts)

/-- The text of a predicate. -/
@[simp] def predicateText (s : Style) : Predicate → Except QueryError String
  | .compare column operator operand _ =>
    .ok (s.column column ++ " " ++ operator ++ " " ++ operand.sql)
  | .raw sql _ => .ok sql
  | .isIn column operands negated _ =>
    .ok (if operands.isEmpty then (if negated then "1 = 1" else "0 = 1")
      else s.column column ++ (if negated then " not in " else " in ")
        ++ "(" ++ Param.listSql operands ++ ")")
  | .isInSub column query negated _ =>
    (s.selectText query).map fun sql =>
      s.column column ++ (if negated then " not in " else " in ") ++ "(" ++ sql ++ ")"
  | .isNull column negated _ =>
    .ok (s.column column ++ (if negated then " is not null" else " is null"))
  | .between column low high negated _ =>
    .ok (s.column column ++ (if negated then " not between " else " between ")
      ++ low.sql ++ " and " ++ high.sql)
  | .nested query _ => (s.ownPredicateTexts query).map (groupSql query.isJoin)
  | .compareSub column operator query _ =>
    (s.selectText query).map fun sql =>
      s.column column ++ " " ++ operator ++ " (" ++ sql ++ ")"
  | .exists query negated _ =>
    (s.selectText query).map fun sql =>
      (if negated then "not exists (" else "exists (") ++ sql ++ ")"
  | .columns first operator second _ =>
    .ok (s.column first ++ " " ++ operator ++ " " ++ s.column second)

/-- The texts of united statements. -/
def armTexts (s : Style) : List Arm → Except QueryError (List (Bool × String))
  | [] => .ok []
  | a :: rest => do
    let arm ← s.armText a
    let texts ← s.armTexts rest
    pure (arm :: texts)

/-- The text of a united statement. -/
@[simp] def armText (s : Style) : Arm → Except QueryError (Bool × String)
  | ⟨query, all⟩ => (s.selectText query).map fun sql => (all, sql)

end

/-- A finished select. -/
def select (s : Style) (q : Query) : Except QueryError Statement :=
  (s.selectText q).map fun sql => ⟨sql, q.bindings.flatten⟩

end Style

end SqlWeave
