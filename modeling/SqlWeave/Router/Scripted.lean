import SqlWeave.Router.Driver

/-!
# A scripted driver

A driver without a database: what it answers, and which calls fail, is written down beforehand.
With it a run of a router can be worked out to the end.
-/

namespace SqlWeave

/-- The calls on a connection that can be told to fail. -/
inductive ConnectionCall where
  | begin
  | commit
  | rollback
  | execute
  | query
  | lastInsertId
  deriving DecidableEq, Repr

/-- What a scripted driver is to do. -/
structure Script where
  /-- The servers whose connections no longer answer. -/
  dead : List String
  /-- How many attempts to connect to a server are still refused. -/
  refusals : List (String × Nat)
  /-- The calls that fail when they are next made, and how. -/
  failures : List (ConnectionCall × String)
  rows : List Row
  affected : UInt64
  lastId : Option Value

namespace Script

/-- Everything succeeds, and there is one row with one key. -/
def smooth : Script where
  dead := []
  refusals := []
  failures := []
  rows := [⟨[("id", .int 42)]⟩]
  affected := 1
  lastId := some (.int 7)

/-! ## Writing the script -/

/-- Whether connections to a server answer from now on. -/
def setDead (s : Script) (dsn : String) (dead : Bool) : Script :=
  let others := s.dead.filter (· ≠ dsn)
  { s with dead := if dead then dsn :: others else others }

/-- How many attempts to connect to a server are refused from now on. -/
def setRefusals (s : Script) (dsn : String) (n : Nat) : Script :=
  { s with refusals := (dsn, n) :: s.refusals.filter fun e => e.1 ≠ dsn }

/-- Lets the next call of a kind fail. -/
def setFailure (s : Script) (call : ConnectionCall) (message : String) : Script :=
  { s with failures := (call, message) :: s.failures.filter fun e => e.1 ≠ call }

/-! ## Following the script -/

/-- How many attempts to connect to a server are still refused. -/
def refusalsOf (s : Script) (dsn : String) : Nat :=
  ((s.refusals.find? fun e => e.1 = dsn).map (·.2)).getD 0

/-- An attempt to connect. -/
def connect (n : NodeConfig) (s : Script) : Except RouteError Unit × Script :=
  match s.refusalsOf n.dsn with
  | 0 => (.ok (), s)
  | left + 1 => (.error (.driver (n.dsn ++ " refused")), s.setRefusals n.dsn left)

/-- A call that answers `x` unless it is to fail. -/
def perform {α : Type} (call : ConnectionCall) (x : α) (s : Script) :
    Except RouteError α × Script :=
  match s.failures.find? fun e => e.1 = call with
  | some (_, message) =>
    (.error (.driver message), { s with failures := s.failures.filter fun e => e.1 ≠ call })
  | none => (.ok x, s)

/-- A text with its quotes doubled, every other value as without a connection. -/
def quote : Value → String
  | .text s => "'" ++ Text.doubleQuotes s ++ "'"
  | v => v.literal

/-- A part of a world changed by a call on that part. -/
def besides {ρ β : Type} (run : Script → β × Script) (world : Script × ρ) : β × (Script × ρ) :=
  let (x, s) := run world.1
  (x, (s, world.2))

/-- The driver that follows a script, in a world that may hold more. -/
def driver (ρ : Type) : Driver (Script × ρ) where
  connect n := besides (connect n)
  ping c world := (!world.1.dead.contains c.config.dsn, world)
  begin _ := besides (perform .begin ())
  commit _ := besides (perform .commit ())
  rollback _ := besides (perform .rollback ())
  execute _ _ := besides fun s => perform .execute s.affected s
  query _ _ := besides fun s => perform .query s.rows s
  lastInsertId _ _ := besides fun s => perform .lastInsertId s.lastId s
  quote _ _ := quote

end Script

/-- A topology with one node that changes data and one that is read. -/
def Topology.pair : Topology :=
  { Topology.empty with
    mode := .masterSlave
    master := some { NodeConfig.empty with dsn := "mysql:m" }
    slaves := .ofList [("r", { NodeConfig.empty with dsn := "mysql:r" })] }

end SqlWeave
