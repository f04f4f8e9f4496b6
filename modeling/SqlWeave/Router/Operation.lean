import SqlWeave.Router.Transaction
import SqlWeave.Sql.Write

/-!
# Operations

What a router does with statements, and its operations as data.

* A select runs on a reader unless it asks for the writer, a change on a writer.
* A statement that cannot be written, or is of the wrong kind, is refused before a connection is
  picked.
* Raw SQL may hold the table prefix by a placeholder of its own.
* `Operation.run` — an operation given as data.
-/

namespace SqlWeave

/-- The placeholder of the table prefix in raw SQL. -/
def prefixPlaceholder : String := "\x7bpfx\x7d"

namespace Router

variable {σ : Type}

/-! ## Sending statements -/

/-- Logs a statement that is about to be sent, if statements are logged. -/
def logStatement (kind : StatementKind) (c : Connection) (s : Statement) : Action σ Unit :=
  fun r =>
    (.ok (), { r with
      log := r.log ++ (r.topology.log.record? kind c.name s.sql s.values.length).toList })

/-- Sends a statement for its rows. -/
def sendQuery (d : Driver σ) (kind : StatementKind) (c : Connection) (s : Statement) :
    Action σ (List Row) := do
  logStatement kind c s
  Action.attempt (d.query c s) (.query c s)

/-- Sends a statement for its changes. -/
def sendExecute (d : Driver σ) (kind : StatementKind) (c : Connection) (s : Statement) :
    Action σ UInt64 := do
  logStatement kind c s
  Action.attempt (d.execute c s) (.execute c s)

/-! ## Statements from queries -/

/-- Runs a select and returns its rows. -/
def select (d : Driver σ) (q : Query) : Action σ (List Row) := do
  if q.kind ≠ .select then Action.fail (.query (.notSelect q.kind))
  else
    let s ← Action.ofQuery q.compile
    let c ← if q.usesWriter then writer d none else reader d none
    sendQuery d .select c s

/-- Runs a change and returns the number of rows it changed. -/
def execute (d : Driver σ) (q : Query) : Action σ UInt64 := do
  if q.kind.isWrite then
    let s ← Action.ofQuery q.compile
    let c ← writer d none
    sendExecute d q.kind c s
  else Action.fail (.query .notWrite)

/-- The key in the first row of a result: the column of its name, or else the first one. -/
def keyOf (sequence : String) (rows : List Row) : Option Value :=
  rows.head?.bind fun row => (row.get? sequence).or (row.at? 0)

/-- Runs an insertion and returns the key that it makes.  Where the statement itself returns the
key it is among the rows, and elsewhere the driver knows it. -/
def insertReturning (d : Driver σ) (q : Query) : Action σ (Option Value) :=
  match q.sequence with
  | none => Action.fail (.query .noSequence)
  | some sequence => do
    let s ← Action.ofQuery q.compile
    let c ← writer d none
    fun r =>
      if r.style.dialect = .postgres then
        (do
          let rows ← sendQuery d .insert c s
          pure (keyOf sequence rows)) r
      else
        (do
          let _ ← sendExecute d .insert c s
          Action.attempt (d.lastInsertId c (some sequence))
            (.lastInsertId c (some sequence))) r

/-! ## Raw statements -/

/-- Writes the table prefix in place of its placeholder. -/
def withPrefix (r : Router σ) (sql : String) : String :=
  Text.replace prefixPlaceholder r.topology.tablePrefix sql

/-- Runs raw SQL on a reader and returns its rows. -/
def selectRaw (d : Driver σ) (sql : String) (values : List Value) : Action σ (List Row) :=
  fun r =>
    (do
      let c ← reader d none
      sendQuery d .select c ⟨r.withPrefix sql, values⟩) r

/-- Runs raw SQL on a writer and returns the number of rows it changed. -/
def executeRaw (d : Driver σ) (sql : String) (values : List Value) : Action σ UInt64 :=
  fun r =>
    (do
      let c ← writer d none
      sendExecute d .update c ⟨r.withPrefix sql, values⟩) r

/-! ## Statements with their values -/

/-- An open connection, the pinned one first. -/
def anyConnection? (r : Router σ) : Option Connection :=
  r.pinned.or (r.nodes.findSome? (·.connection))

/-- A statement with its values written in, as an open connection would quote them. -/
def interpolate (d : Driver σ) (r : Router σ) (s : Statement) : String :=
  match r.anyConnection? with
  | some c => s.interpolate (d.quote c r.world)
  | none => s.interpolate Value.literal

end Router

/-! ## Operations as data -/

/-- An operation of a router. -/
inductive Operation where
  | writer (name : Option String)
  | reader (name : Option String)
  | begin
  | commit
  | rollback
  | disconnect
  | select (q : Query)
  | execute (q : Query)
  | insertReturning (q : Query)
  | selectRaw (sql : String) (values : List Value)
  | executeRaw (sql : String) (values : List Value)

namespace Operation

/-- Asks for the writer that is called the master. -/
def master : Operation :=
  .writer (some "master")

/-- Asks for a reader, by the other name of readers. -/
def slave (name : Option String) : Operation :=
  .reader name

end Operation

/-- What an operation answers. -/
inductive Answer where
  | connection (c : Connection)
  | rows (rows : List Row)
  | count (n : UInt64)
  | key (value : Option Value)
  | done

/-- Runs an operation. -/
def Operation.run {σ : Type} (d : Driver σ) : Operation → Action σ Answer
  | .writer name => do pure (.connection (← Router.writer d name))
  | .reader name => do pure (.connection (← Router.reader d name))
  | .begin => do pure (.connection (← Router.begin d))
  | .commit => do
    Router.commit d
    pure .done
  | .rollback => do
    Router.rollback d
    pure .done
  | .disconnect => do
    Router.disconnect
    pure .done
  | .select q => do pure (.rows (← Router.select d q))
  | .execute q => do pure (.count (← Router.execute d q))
  | .insertReturning q => do pure (.key (← Router.insertReturning d q))
  | .selectRaw sql values => do pure (.rows (← Router.selectRaw d sql values))
  | .executeRaw sql values => do pure (.count (← Router.executeRaw d sql values))

end SqlWeave
