import SqlWeave.NameMap
import SqlWeave.Style.Basic

/-!
# Topologies

Which database servers there are and how statements are to be spread over them.

* `NodeConfig` — one server.
* `Topology` — the servers of a deployment, the mode that picks which of them count, and the
  settings of the statements' style and of the log.
* `Topology.driverName` — the driver named by the deployment or by the first server that names one.
-/

namespace SqlWeave

/-- How many retries a node may ask for. -/
def maxRetry : UInt8 := 5

/-- Milliseconds between two attempts to connect. -/
def retryPause : Nat := 50

/-- One database server. -/
structure NodeConfig where
  /-- The driver, a colon, and what the driver makes of the rest. -/
  dsn : String
  user : Option String
  password : Option String
  options : NameMap String
  /-- How often a failed connection attempt is repeated. -/
  retry : UInt8

namespace NodeConfig

/-- A node without settings. -/
def empty : NodeConfig :=
  ⟨"", none, none, .empty, 0⟩

/-- The repeated attempts that are made: a wish for too many is taken as a wish for none. -/
def retries (n : NodeConfig) : Nat :=
  if n.retry ≤ maxRetry then n.retry.toNat else 0

/-- The driver in front of the first colon, if there is one. -/
def driver? (n : NodeConfig) : Option String :=
  match Text.cut? ":" n.dsn with
  | some (driver, _) => if (Text.trim driver).isEmpty then none else some (Text.trim driver)
  | none => none

end NodeConfig

/-- How the nodes share the work. -/
inductive Mode where
  /-- One node does everything. -/
  | single
  /-- Some nodes change data and others are read. -/
  | masterSlave
  /-- Every node does everything. -/
  | cluster
  deriving DecidableEq, Repr

/-- The name of a mode in a configuration. -/
def Mode.text : Mode → String
  | .single => "single"
  | .masterSlave => "master_slave"
  | .cluster => "cluster"

/-- The name of a mode in the log. -/
def Mode.logText : Mode → String
  | .single => "Single"
  | .masterSlave => "MasterSlave"
  | .cluster => "Cluster"

/-- Whether statements are logged, and at how many bytes their text is cut. -/
structure LogPolicy where
  enabled : Bool
  maxBytes : Option Nat
  deriving DecidableEq, Repr

/-- Statements are logged and cut at two hundred bytes. -/
def LogPolicy.usual : LogPolicy :=
  ⟨true, some 200⟩

/-- A deployment. -/
structure Topology where
  driver : Option String
  mode : Mode
  tablePrefix : String
  quoting : Option Quoting
  log : LogPolicy
  /-- The node of the single mode. -/
  solo : Option NodeConfig
  /-- The node that changes data, by its usual name. -/
  master : Option NodeConfig
  /-- Nodes that are read, by their usual name. -/
  slaves : NameMap NodeConfig
  /-- Nodes that change data. -/
  writers : NameMap NodeConfig
  /-- Nodes that are read. -/
  readers : NameMap NodeConfig
  /-- The nodes of a cluster. -/
  nodes : NameMap NodeConfig

/-- Why a topology cannot be used. -/
inductive TopologyFault where
  | noSolo
  | noWriter
  | noNodes
  deriving DecidableEq, Repr

/-- What is missing. -/
def TopologyFault.message : TopologyFault → String
  | .noSolo => "single mode needs a `default` node"
  | .noWriter =>
    "master_slave mode needs a `master` node or at least one `writers` entry"
  | .noNodes => "cluster mode needs at least one entry in `nodes`"

namespace Topology

/-- The topology without nodes and settings. -/
def empty : Topology where
  driver := none
  mode := .single
  tablePrefix := ""
  quoting := none
  log := .usual
  solo := none
  master := none
  slaves := .empty
  writers := .empty
  readers := .empty
  nodes := .empty

/-- What the mode needs and the topology lacks. -/
def fault? (t : Topology) : Option TopologyFault :=
  match t.mode with
  | .single => if t.solo.isNone then some .noSolo else none
  | .masterSlave => if t.master.isNone && t.writers.isEmpty then some .noWriter else none
  | .cluster => if t.nodes.isEmpty then some .noNodes else none

/-- All nodes, those that change data first. -/
def allNodes (t : Topology) : List NodeConfig :=
  t.solo.toList ++ t.master.toList ++ t.writers.values ++ t.slaves.values ++ t.readers.values
    ++ t.nodes.values

/-- The driver that is named, or else that of the first node with one, or else `ansi`. -/
def driverName (t : Topology) : String :=
  (t.driver.or (t.allNodes.findSome? NodeConfig.driver?)).getD "ansi"

/-- The dialect of the driver. -/
def dialect (t : Topology) : Dialect :=
  Dialect.ofDriver t.driverName

/-- The style in which statements are written. -/
def style (t : Topology) : Style :=
  ⟨t.dialect, t.quoting, t.tablePrefix⟩

end Topology

end SqlWeave
