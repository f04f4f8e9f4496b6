import SqlWeave.Config.Toml.Reader
import SqlWeave.Query.Error

/-!
# Failures of routing

Why a configuration cannot be used or a statement cannot be run.
-/

namespace SqlWeave

/-- What a connection is wanted for. -/
inductive Role where
  | writer
  | reader
  deriving DecidableEq, Repr

/-- The name of a role. -/
def Role.text : Role → String
  | .writer => "writer"
  | .reader => "reader"

/-- Why routing failed. -/
inductive RouteError where
  /-- A configuration that is not well-formed TOML of the right shape. -/
  | badToml
  /-- A configuration that is not well-formed JSON of the right shape. -/
  | badJson
  /-- A topology that lacks what its mode needs. -/
  | topology (fault : TopologyFault)
  /-- No node changes data. -/
  | noWriter
  /-- No node is read. -/
  | noReader
  /-- No node of the role has the name. -/
  | unknownConnection (role : Role) (name : String)
  /-- The node could not be reached, however often it was tried. -/
  | connect (node message : String)
  /-- The driver reported a failure. -/
  | driver (message : String)
  /-- A transaction begins inside another. -/
  | alreadyOpen
  /-- There is no transaction to commit. -/
  | nothingToCommit
  /-- There is no transaction to roll back. -/
  | nothingToRollBack
  /-- The statement cannot be written, or is not of the right kind. -/
  | query (error : QueryError)
  deriving DecidableEq, Repr

namespace RouteError

/-- The message of a failure. -/
def message : RouteError → String
  | .badToml => "TOML config error"
  | .badJson => "JSON config error"
  | .topology fault => "Config error: " ++ fault.message
  | .noWriter => "Config error: no writer connection is configured"
  | .noReader => "No reader connection is configured"
  | .unknownConnection role name =>
    "The connection '" ++ role.text ++ "." ++ name ++ "' does not exist"
  | .connect node message => "Connect error on '" ++ node ++ "': " ++ message
  | .driver message => "Driver error: " ++ message
  | .alreadyOpen => "Transaction error: a transaction is already open"
  | .nothingToCommit => "Transaction error: no open transaction to commit"
  | .nothingToRollBack => "Transaction error: no open transaction to roll back"
  | .query error => error.message

end RouteError

namespace Topology

/-- The topology itself if it has what its mode needs. -/
def validate (t : Topology) : Except RouteError Topology :=
  match t.fault? with
  | some fault => .error (.topology fault)
  | none => .ok t

/-- The topology of a TOML document. -/
def ofToml (text : String) : Except RouteError Topology :=
  match (Toml.document? text).bind (Setting.topology? .toml) with
  | some t => t.validate
  | none => .error .badToml

/-- The topology of a JSON text. -/
def ofJson (text : String) : Except RouteError Topology :=
  match (JsonText.read? text).bind fun j => Setting.topology? .json (Setting.ofJson j) with
  | some t => t.validate
  | none => .error .badJson

end Topology

end SqlWeave
