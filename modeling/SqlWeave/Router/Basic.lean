import SqlWeave.Query.Basic
import SqlWeave.Router.Driver
import SqlWeave.Router.Log

/-!
# Routers

A router knows the nodes of a topology and which of them change data or are read.  Connections are
opened when they are first needed and kept.  While a transaction is open, its connection is pinned
and serves everything.

* `Router.ofTopology` — the router before its first operation.
* `Action` — an operation: it returns an answer or a failure, and the router after it.
* `Router.connection` — the connection for a role: the pinned one, or one to a node that is named
  or next in turn.
-/

namespace SqlWeave

/-! ## Registration -/

/-- A node as it takes part in routing. -/
structure Registration where
  /-- The name under which it is reported. -/
  name : String
  /-- The name by which it is asked for. -/
  key : String
  config : NodeConfig
  writes : Bool
  reads : Bool

/-- The nodes that take part under the mode of a topology, in the order in which they take turns. -/
def Topology.registrations (t : Topology) : List Registration :=
  match t.mode with
  | .single => t.solo.toList.map fun n => ⟨"default", "default", n, true, true⟩
  | .masterSlave =>
    (t.master.toList.map fun n => ⟨"writer.master", "master", n, true, false⟩)
      ++ (t.writers.entries.map fun e => ⟨"writer." ++ e.1, e.1, e.2, true, false⟩)
      ++ ((t.slaves.entries ++ t.readers.entries).map fun e =>
        ⟨"reader." ++ e.1, e.1, e.2, false, true⟩)
  | .cluster => t.nodes.entries.map fun e => ⟨e.1, e.1, e.2, true, true⟩

/-- The positions of the nodes that take part in a role. -/
def positions (takes : Registration → Bool) (nodes : List Registration) : List Nat :=
  (nodes.zipIdx.filter fun n => takes n.1).map (·.2)

/-! ## The state -/

/-- A node and the connection to it, if one is kept. -/
structure Node where
  registration : Registration
  connection : Option Connection

/-- The state of a router in a world of type `σ`. -/
structure Router (σ : Type) where
  topology : Topology
  nodes : List Node
  /-- The positions of the nodes that change data. -/
  writers : List Nat
  /-- The positions of the nodes that are read. -/
  readers : List Nat
  /-- How often a writer has been picked by turn. -/
  writerTurn : UInt64
  /-- How often a reader has been picked by turn. -/
  readerTurn : UInt64
  /-- The connection of the open transaction. -/
  pinned : Option Connection
  /-- How many connections have been opened. -/
  opened : Nat
  world : σ
  /-- The calls on the driver so far. -/
  events : List Event
  /-- The log so far. -/
  log : List LogRecord

/-- An operation of a router. -/
def Action (σ α : Type) : Type :=
  Router σ → Except RouteError α × Router σ

namespace Action

variable {σ α β : Type}

/-- An operation that only answers. -/
def pure (x : α) : Action σ α :=
  fun r => (.ok x, r)

/-- One operation after another; a failure ends the sequence. -/
def bind (a : Action σ α) (next : α → Action σ β) : Action σ β :=
  fun r =>
    match a r with
    | (.ok x, r) => next x r
    | (.error e, r) => (.error e, r)

instance : Monad (Action σ) where
  pure := pure
  bind := bind

/-- An operation that only fails. -/
def fail (e : RouteError) : Action σ α :=
  fun r => (.error e, r)

/-- A result as an operation. -/
def ofExcept (x : Except RouteError α) : Action σ α :=
  fun r => (x, r)

/-- A finished statement, or its refusal, as an operation. -/
def ofQuery (x : Except QueryError α) : Action σ α :=
  ofExcept (x.mapError .query)

/-- Adds a record to the log. -/
def tell (l : LogRecord) : Action σ Unit :=
  fun r => (.ok (), { r with log := r.log ++ [l] })

/-- Makes a call on the driver and notes it with its end. -/
def call {γ : Type} (run : σ → γ × σ) (note : γ → Event) : Action σ γ :=
  fun r =>
    let (x, world) := run r.world
    (.ok x, { r with world := world, events := r.events ++ [note x] })

/-- Makes a call on the driver that may fail, and notes it with its end. -/
def attempt (run : σ → Except RouteError α × σ) (note : Bool → Event) : Action σ α :=
  bind (call run fun x => note x.isOk) ofExcept

end Action

namespace Router

variable {σ : Type}

/-- The router of a topology before its first operation. -/
def ofTopology (t : Topology) (world : σ) : Except RouteError (Router σ) :=
  t.validate.map fun t =>
    let nodes := t.registrations
    let writers := positions Registration.writes nodes
    let readers := positions Registration.reads nodes
    { topology := t
      nodes := nodes.map fun n => ⟨n, none⟩
      writers := writers
      readers := readers
      writerTurn := 0
      readerTurn := 0
      pinned := none
      opened := 0
      world := world
      events := []
      log := [.configured t.mode t.driverName writers.length readers.length] }

/-- The style in which statements are written. -/
def style (r : Router σ) : Style :=
  r.topology.style

/-- The names of the nodes. -/
def nodeNames (r : Router σ) : List String :=
  r.nodes.map (·.registration.name)

/-- Whether a connection to a node of a name is kept. -/
def isConnected (r : Router σ) (name : String) : Bool :=
  r.nodes.any fun n => n.registration.name = name && n.connection.isSome

/-- The names of the nodes under which a connection is kept.  Nodes that share a name count
together. -/
def connectedNames (r : Router σ) : List String :=
  r.nodeNames.filter r.isConnected

/-- Whether a transaction is open. -/
def inTransaction (r : Router σ) : Bool :=
  r.pinned.isSome

/-- A select on a table in the style of the router. -/
def queryOn (r : Router σ) (table : String) : Query :=
  { Query.empty r.style with table := some (.named table) }

/-! ## Picking a node -/

/-- The positions of the nodes of a role. -/
def candidates (r : Router σ) : Role → List Nat
  | .writer => r.writers
  | .reader => r.readers

/-- How often a node of a role has been picked by turn. -/
def turn (r : Router σ) : Role → UInt64
  | .writer => r.writerTurn
  | .reader => r.readerTurn

/-- Counts one more pick by turn. -/
def advance (r : Router σ) : Role → Router σ
  | .writer => { r with writerTurn := r.writerTurn + 1 }
  | .reader => { r with readerTurn := r.readerTurn + 1 }

/-- Whether the node at a position is asked for by a name. -/
def hasKey (r : Router σ) (name : String) (i : Nat) : Bool :=
  match r.nodes[i]? with
  | some n => n.registration.key = name
  | none => false

/-- The position of the node of a role that is named, or whose turn it is. -/
def pick (role : Role) (name : Option String) : Action σ Nat := fun r =>
  let candidates := r.candidates role
  if candidates.isEmpty then
    (.error (match role with
      | .writer => .noWriter
      | .reader => .noReader), r)
  else
    match name with
    | some name =>
      match candidates.find? (r.hasKey name) with
      | some i => (.ok i, r)
      | none => (.error (.unknownConnection role name), r)
    | none =>
      (.ok (candidates.getD ((r.turn role).toNat % candidates.length) 0), r.advance role)

/-! ## Connecting -/

/-- Asks the driver once for a connection to a node. -/
def knock (d : Driver σ) (i : Nat) (n : Registration) : Action σ Unit :=
  Action.attempt (d.connect n.config) (.connect i n.config.dsn)

/-- Counts a new connection to a node, the attempts before which failed `made` times. -/
def establish (i : Nat) (n : Registration) (made : Nat) : Action σ Connection := fun r =>
  (.ok ⟨r.opened + 1, i, n.name, n.config⟩,
    { r with opened := r.opened + 1, log := r.log ++ [.connected n.name made] })

/-- Opens a connection to a node after `made` failed attempts, with `left` more after the next. -/
def openConnection (d : Driver σ) (i : Nat) (n : Registration) :
    (left made : Nat) → Action σ Connection
  | 0, made => fun r =>
    match knock d i n r with
    | (.ok _, r) => establish i n made r
    | (.error e, r) => (.error (.connect n.name e.message), r)
  | left + 1, made => fun r =>
    match knock d i n r with
    | (.ok _, r) => establish i n made r
    | (.error e, r) =>
      openConnection d i n left (made + 1)
        { r with log := r.log ++ [.retrying n.name (made + 1) n.config.retries e.message] }

/-- Keeps a connection for the node at a position. -/
def keep (r : Router σ) (i : Nat) (c : Option Connection) : Router σ :=
  { r with nodes := r.nodes.modify i fun n => { n with connection := c } }

/-- Opens a connection to the node at a position and keeps it. -/
def reopen (d : Driver σ) (i : Nat) (n : Registration) : Action σ Connection := fun r =>
  match openConnection d i n n.config.retries 0 r with
  | (.ok c, r) => (.ok c, r.keep i (some c))
  | (.error e, r) => (.error e, r)

/-- The kept connection to the node at a position if it still answers, else a new one. -/
def connect (d : Driver σ) (i : Nat) : Action σ Connection := fun r =>
  match r.nodes[i]? with
  | none => (.error .noWriter, r)
  | some n =>
    match n.connection with
    | none => reopen d i n.registration r
    | some c =>
      let (alive, world) := d.ping c r.world
      let r := { r with world := world, events := r.events ++ [.ping c alive] }
      if alive then (.ok c, r)
      else reopen d i n.registration { r with log := r.log ++ [.lost n.registration.name] }

/-- The connection for a role: the pinned one, or one to the node that is named or next in turn. -/
def connection (d : Driver σ) (role : Role) (name : Option String) : Action σ Connection :=
  fun r =>
    match r.pinned with
    | some c => (.ok c, r)
    | none => (Action.bind (pick role name) (connect d)) r

/-- A connection for changing data. -/
def writer (d : Driver σ) (name : Option String) : Action σ Connection :=
  connection d .writer name

/-- A connection for reading. -/
def reader (d : Driver σ) (name : Option String) : Action σ Connection :=
  connection d .reader name

/-- Asks whether a connection still answers. -/
def ping (d : Driver σ) (c : Connection) : Action σ Bool :=
  Action.call (d.ping c) (.ping c)

end Router

end SqlWeave
