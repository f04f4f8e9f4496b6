import SqlWeave.Router.Error
import SqlWeave.Router.Row
import SqlWeave.Sql.Statement

/-!
# Drivers

The databases behind a router, as functions on the state of the world in which they live.  Every
call may change that state and may fail, so any behaviour of servers and networks is some driver.
-/

namespace SqlWeave

/-- An open connection to a node. -/
structure Connection where
  /-- How many connections had been opened when this one was, itself included. -/
  serial : Nat
  /-- The position of its node. -/
  node : Nat
  /-- The registered name of its node. -/
  name : String
  config : NodeConfig

/-- What connections do, in a world of type `σ`. -/
structure Driver (σ : Type) where
  /-- Opens a connection. -/
  connect : NodeConfig → σ → Except RouteError Unit × σ
  /-- Whether a connection still answers. -/
  ping : Connection → σ → Bool × σ
  begin : Connection → σ → Except RouteError Unit × σ
  commit : Connection → σ → Except RouteError Unit × σ
  rollback : Connection → σ → Except RouteError Unit × σ
  /-- Runs a statement and returns the number of rows it changed. -/
  execute : Connection → Statement → σ → Except RouteError UInt64 × σ
  /-- Runs a statement and returns its rows. -/
  query : Connection → Statement → σ → Except RouteError (List Row) × σ
  /-- The key that the last insertion made. -/
  lastInsertId : Connection → Option String → σ → Except RouteError (Option Value) × σ
  /-- The literal of a value. -/
  quote : Connection → σ → Value → String

/-- A call that a router has made on its driver, with what is needed to tell how it ended. -/
inductive Event where
  | connect (node : Nat) (dsn : String) (ok : Bool)
  | ping (c : Connection) (alive : Bool)
  | begin (c : Connection) (ok : Bool)
  | commit (c : Connection) (ok : Bool)
  | rollback (c : Connection) (ok : Bool)
  | execute (c : Connection) (statement : Statement) (ok : Bool)
  | query (c : Connection) (statement : Statement) (ok : Bool)
  | lastInsertId (c : Connection) (sequence : Option String) (ok : Bool)

end SqlWeave
