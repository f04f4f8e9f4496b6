import SqlWeave.Config.Topology
import SqlWeave.Query.Clause
import SqlWeave.Text.Size

/-!
# Log records

What a router tells about its work.  The text of a statement is cut as the log policy says, and its
values are never written, only counted.
-/

namespace SqlWeave

/-- A log record. -/
inductive LogRecord where
  | configured (mode : Mode) (driver : String) (writers readers : Nat)
  | connected (node : String) (attempt : Nat)
  | retrying (node : String) (attempt retries : Nat) (error : String)
  | lost (node : String)
  | begun (node : String)
  | committed (node : String)
  | rolledBack (node : String)
  | rollbackFailed (error : String)
  | leftOpen
  | closed
  | statement (kind : StatementKind) (node : String) (values : Nat) (sql : String)
  deriving DecidableEq, Repr

/-- How important a record is. -/
inductive LogLevel where
  | debug
  | info
  | warn
  deriving DecidableEq, Repr

/-- The name of a level. -/
def LogLevel.text : LogLevel → String
  | .debug => "DEBUG"
  | .info => "INFO"
  | .warn => "WARN"

namespace LogRecord

/-- How important a record is. -/
def level : LogRecord → LogLevel
  | .configured .. | .begun _ | .committed _ | .rolledBack _ | .statement .. => .debug
  | .connected .. | .closed => .info
  | .retrying .. | .lost _ | .rollbackFailed _ | .leftOpen => .warn

/-- What happened; the record of a statement says it by its fields alone. -/
def message? : LogRecord → Option String
  | .configured .. => some "connection locator configured"
  | .connected .. => some "connected"
  | .retrying .. => some "connect failed, retrying"
  | .lost _ => some "connection lost, reconnecting"
  | .begun _ => some "transaction started, writer pinned"
  | .committed _ => some "transaction committed"
  | .rolledBack _ => some "transaction rolled back"
  | .rollbackFailed _ => some "rollback failed"
  | .leftOpen => some "disconnecting with an open transaction"
  | .closed => some "all connections closed"
  | .statement .. => none

/-- The fields of a record and their texts. -/
def fields : LogRecord → List (String × String)
  | .configured mode driver writers readers =>
    [("mode", mode.logText), ("driver", driver), ("writers", toString writers),
      ("readers", toString readers)]
  | .connected node attempt => [("node", node), ("attempt", toString attempt)]
  | .retrying node attempt retries error =>
    [("node", node), ("attempt", toString attempt), ("retries", toString retries),
      ("error", error)]
  | .lost node | .begun node | .committed node | .rolledBack node => [("node", node)]
  | .rollbackFailed error => [("error", error)]
  | .leftOpen | .closed => []
  | .statement kind node values sql =>
    [("kind", kind.text), ("node", node), ("param_count", toString values), ("sql", sql)]

end LogRecord

/-- The text of a statement as a record shows it. -/
def LogPolicy.shorten (p : LogPolicy) (sql : String) : String :=
  match p.maxBytes with
  | some room => Text.abridge room sql
  | none => sql

/-- The record of a statement, if statements are logged. -/
def LogPolicy.record? (p : LogPolicy) (kind : StatementKind) (node sql : String) (values : Nat) :
    Option LogRecord :=
  if p.enabled then some (.statement kind node values (p.shorten sql)) else none

end SqlWeave
