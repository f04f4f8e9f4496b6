import Mathlib.Tactic.Common
import SqlWeave.Router.Operation

/-!
# Reaching a connection

Every operation that sends something first gets a connection, in the same way: the pinned one if a
transaction is open, and else one to the node that is picked, which may have to be opened.

* `Reach` — everything that can happen on the way, with what becomes of the router.
* `Router.reach_connection` — nothing else can happen.
* `Reach.of_pinned`, `Reach.events_eq` — an open transaction decides it, and no command is sent.
-/

namespace SqlWeave

variable {σ : Type}

/-! ## Calls that look for a connection -/

namespace Event

/-- The connection to which a command is sent: what is more than opening a connection or asking
whether it answers. -/
def commanded : Event → Option Connection
  | .connect .. | .ping .. => none
  | .begin c _ | .commit c _ | .rollback c _ | .execute c _ _ | .query c _ _
  | .lastInsertId c _ _ => some c

/-- The position of the node to which a connection is opened. -/
def opened : Event → Option Nat
  | .connect i _ true => some i
  | _ => none

/-- Whether nothing but a look for a connection was made, and in vain. -/
def IsProbe (e : Event) : Prop :=
  e.commanded = none ∧ e.opened = none

lemma isProbe_ping (c : Connection) (alive : Bool) : (ping c alive).IsProbe :=
  ⟨rfl, rfl⟩

lemma isProbe_refused (i : Nat) (dsn : String) : (connect i dsn false).IsProbe :=
  ⟨rfl, rfl⟩

end Event

/-- Whether a record tells of a statement. -/
def LogRecord.isStatement : LogRecord → Bool
  | .statement .. => true
  | _ => false

/-! ## Picking a node -/

namespace Router

/-- Picking a node changes nothing but how often one was picked by turn. -/
lemma pick_cases (r : Router σ) (role : Role) (name : Option String) :
    (∃ e, pick role name r = (.error e, r)) ∨
      ∃ i ∈ r.candidates role, ∃ writerTurn readerTurn,
        pick role name r
          = (.ok i, { r with writerTurn := writerTurn, readerTurn := readerTurn }) := by
  simp only [pick]
  by_cases hempty : (r.candidates role).isEmpty = true
  · exact .inl ⟨_, if_pos hempty⟩
  · rw [if_neg hempty]
    cases name with
    | some name =>
      cases hfind : (r.candidates role).find? (r.hasKey name) with
      | none => exact .inl ⟨_, by simp only [hfind]; rfl⟩
      | some i =>
        exact .inr ⟨i, List.mem_of_find?_eq_some hfind, r.writerTurn, r.readerTurn,
          by simp only [hfind]⟩
    | none =>
      -- The turn is taken modulo the number of candidates, so there is a node at it.
      have hlt : (r.turn role).toNat % (r.candidates role).length < (r.candidates role).length :=
        Nat.mod_lt _ (List.length_pos_iff.mpr fun hnil => hempty (by simp [hnil]))
      have hmem : (r.candidates role).getD ((r.turn role).toNat % (r.candidates role).length) 0
          ∈ r.candidates role := by
        rw [List.getD_eq_getElem?_getD, List.getElem?_eq_getElem hlt]
        exact List.getElem_mem hlt
      refine .inr ⟨_, hmem, ?_⟩
      cases role with
      | writer => exact ⟨r.writerTurn + 1, r.readerTurn, rfl⟩
      | reader => exact ⟨r.writerTurn, r.readerTurn + 1, rfl⟩

/-- What is picked is a node of the role. -/
lemma mem_of_pick {r r₁ : Router σ} {role : Role} {name : Option String} {i : Nat}
    (h : pick role name r = (.ok i, r₁)) : i ∈ r.candidates role := by
  rcases pick_cases r role name with ⟨e, hpick⟩ | ⟨j, hj, _, _, hpick⟩
  · rw [h] at hpick
    cases hpick
  · rw [h] at hpick
    obtain ⟨rfl⟩ := Except.ok.inj (Prod.mk.inj hpick).1
    exact hj

/-! ## Opening a connection -/

/-- The next connection that is opened, if it is to the node at a position. -/
def nextConnection (r : Router σ) (i : Nat) (n : Registration) : Connection :=
  ⟨r.opened + 1, i, n.name, n.config⟩

/-- What opening a connection to the node at a position makes of a router. -/
inductive Opens (i : Nat) (n : Registration) (r : Router σ) :
    Except RouteError Connection × Router σ → Prop
  | failed {e : RouteError} {world : σ} {trail : List Event} {notes : List LogRecord}
      (htrail : ∀ e ∈ trail, e.IsProbe) (hnotes : ∀ l ∈ notes, l.isStatement = false) :
      Opens i n r (.error e, { r with
        world := world
        events := r.events ++ trail
        log := r.log ++ notes })
  | opened {world : σ} {trail : List Event} {notes : List LogRecord}
      (htrail : ∀ e ∈ trail, e.IsProbe) (hnotes : ∀ l ∈ notes, l.isStatement = false) :
      Opens i n r (.ok (r.nextConnection i n), { r with
        world := world
        opened := r.opened + 1
        events := r.events ++ (trail ++ [.connect i n.config.dsn true])
        log := r.log ++ notes })

/-- A further vain look before a connection is opened. -/
lemma Opens.after {i : Nat} {n : Registration} {r : Router σ} {world : σ} {e : Event}
    {l : LogRecord} {result : Except RouteError Connection × Router σ} (he : e.IsProbe)
    (hl : l.isStatement = false)
    (h : Opens i n { r with
      world := world
      events := r.events ++ [e]
      log := r.log ++ [l] } result) :
    Opens i n r result := by
  cases h with
  | @failed e' world' trail notes htrail hnotes =>
    simp only [List.append_assoc, List.singleton_append]
    exact .failed (List.forall_mem_cons.mpr ⟨he, htrail⟩) (List.forall_mem_cons.mpr ⟨hl, hnotes⟩)
  | @opened world' trail notes htrail hnotes =>
    simp only [List.append_assoc, List.singleton_append, ← List.cons_append]
    exact .opened (List.forall_mem_cons.mpr ⟨he, htrail⟩) (List.forall_mem_cons.mpr ⟨hl, hnotes⟩)

/-- An attempt to connect that fails is noted and answered with its failure. -/
lemma knock_eq (d : Driver σ) (i : Nat) (n : Registration) (r : Router σ) :
    knock d i n r = ((d.connect n.config r.world).1, { r with
      world := (d.connect n.config r.world).2
      events := r.events ++ [.connect i n.config.dsn (d.connect n.config r.world).1.isOk] }) :=
  rfl

/-- **Opening ends in one of two ways**: no connection and vain attempts only, or the next
connection with its opening last. -/
lemma opens_openConnection (d : Driver σ) (i : Nat) (n : Registration) (left made : Nat)
    (r : Router σ) : Opens i n r (openConnection d i n left made r) := by
  have htrail : ∀ e ∈ ([] : List Event), e.IsProbe := by simp
  have hnotes (made : Nat) : ∀ l ∈ [LogRecord.connected n.name made], l.isStatement = false := by
    simp [LogRecord.isStatement]
  -- On the attempts that are left: one that is refused is one more vain look before the others.
  induction left generalizing made r with
  | zero =>
    simp only [openConnection, knock_eq]
    rcases d.connect n.config r.world with ⟨outcome, world⟩
    cases outcome with
    | ok x => exact .opened htrail (hnotes made)
    | error e =>
      have hrefused : ∀ e ∈ [Event.connect i n.config.dsn false], e.IsProbe := by
        simp [Event.isProbe_refused]
      have hfailed :=
        @Opens.failed σ i n r (.connect n.name e.message) world _ [] hrefused (by simp)
      simpa [Except.isOk, Except.toBool] using hfailed
  | succ left ih =>
    simp only [openConnection, knock_eq]
    rcases d.connect n.config r.world with ⟨outcome, world⟩
    cases outcome with
    | ok x => exact .opened htrail (hnotes made)
    | error e => exact (ih (made + 1) _).after (Event.isProbe_refused i n.config.dsn) rfl

/-! ## Reaching a connection -/

/-- What reaching a connection for a role makes of a router. -/
inductive Reach (r : Router σ) (role : Role) (name : Option String) :
    Except RouteError Connection × Router σ → Prop
  /-- A transaction is open. -/
  | pinned {c : Connection} (hpin : r.pinned = some c) : Reach r role name (.ok c, r)
  /-- No node can be picked. -/
  | unpicked {e : RouteError} (hpin : r.pinned = none)
      (hpick : pick role name r = (.error e, r)) : Reach r role name (.error e, r)
  /-- The node that is picked cannot be reached. -/
  | failed {i : Nat} {e : RouteError} {writerTurn readerTurn : UInt64} {world : σ}
      {trail : List Event} {notes : List LogRecord} (hpin : r.pinned = none)
      (hpick : pick role name r
        = (.ok i, { r with writerTurn := writerTurn, readerTurn := readerTurn }))
      (htrail : ∀ e ∈ trail, e.IsProbe) (hnotes : ∀ l ∈ notes, l.isStatement = false) :
      Reach r role name (.error e, { r with
        writerTurn := writerTurn
        readerTurn := readerTurn
        world := world
        events := r.events ++ trail
        log := r.log ++ notes })
  /-- The node that is picked has a connection that answers. -/
  | alive {i : Nat} {n : Node} {c : Connection} {writerTurn readerTurn : UInt64} {world : σ}
      (hpin : r.pinned = none)
      (hpick : pick role name r
        = (.ok i, { r with writerTurn := writerTurn, readerTurn := readerTurn }))
      (hnode : r.nodes[i]? = some n) (hkept : n.connection = some c) :
      Reach r role name (.ok c, { r with
        writerTurn := writerTurn
        readerTurn := readerTurn
        world := world
        events := r.events ++ [.ping c true] })
  /-- A connection to the node that is picked is opened, and kept. -/
  | opened {i : Nat} {n : Node} {writerTurn readerTurn : UInt64} {world : σ}
      {trail : List Event} {notes : List LogRecord} (hpin : r.pinned = none)
      (hpick : pick role name r
        = (.ok i, { r with writerTurn := writerTurn, readerTurn := readerTurn }))
      (hnode : r.nodes[i]? = some n)
      (htrail : ∀ e ∈ trail, e.IsProbe) (hnotes : ∀ l ∈ notes, l.isStatement = false) :
      Reach r role name (.ok (r.nextConnection i n.registration), { r with
        nodes := r.nodes.modify i fun m =>
          { m with connection := some (r.nextConnection i n.registration) }
        writerTurn := writerTurn
        readerTurn := readerTurn
        opened := r.opened + 1
        world := world
        events := r.events ++ (trail ++ [.connect i n.registration.config.dsn true])
        log := r.log ++ notes })

/-- Opening a connection for a node that was picked, perhaps after a look at an old one. -/
lemma Reach.of_opens {d : Driver σ} {r r₁ : Router σ} {role : Role} {name : Option String}
    {i : Nat} {n : Node} {writerTurn readerTurn : UInt64} (hpin : r.pinned = none)
    (hpick : pick role name r
      = (.ok i, { r with writerTurn := writerTurn, readerTurn := readerTurn }))
    (hnode : r.nodes[i]? = some n)
    (h : Opens i n.registration { r with writerTurn := writerTurn, readerTurn := readerTurn }
      (openConnection d i n.registration n.registration.config.retries 0 r₁)) :
    Reach r role name (reopen d i n.registration r₁) := by
  simp only [reopen]
  generalize openConnection d i n.registration n.registration.config.retries 0 r₁ = result at h ⊢
  cases h with
  | failed htrail hnotes => exact .failed hpin hpick htrail hnotes
  | opened htrail hnotes => exact .opened hpin hpick hnode htrail hnotes

/-- A connection that is kept is asked whether it answers before it is used. -/
lemma connect_of_kept (d : Driver σ) {r : Router σ} {i : Nat} {n : Node} {c : Connection}
    (hnode : r.nodes[i]? = some n) (hkept : n.connection = some c) :
    connect d i r =
      let asked := { r with
        world := (d.ping c r.world).2
        events := r.events ++ [.ping c (d.ping c r.world).1] }
      if (d.ping c r.world).1 then (.ok c, asked)
      else reopen d i n.registration { asked with
        log := asked.log ++ [.lost n.registration.name] } := by
  simp only [connect, hnode, hkept]

/-- Nothing else can happen when a connection is reached for. -/
theorem reach_connection (d : Driver σ) (role : Role) (name : Option String) (r : Router σ) :
    Reach r role name (connection d role name r) := by
  cases hpin : r.pinned with
  | some c =>
    simp only [connection, hpin]
    exact .pinned hpin
  | none =>
    simp only [connection, hpin, Action.bind]
    rcases pick_cases r role name with ⟨e, hpick⟩ | ⟨i, -, writerTurn, readerTurn, hpick⟩
    · simp only [hpick]
      exact .unpicked hpin hpick
    · simp only [hpick]
      cases hnode : r.nodes[i]? with
      | none =>
        simp only [connect, hnode]
        -- A position without a node; sound routers have none, but that is not known here.
        have hfailed := @Reach.failed σ r role name i .noWriter _ _ r.world [] [] hpin hpick
          (by simp) (by simp)
        simpa using hfailed
      | some n =>
        have hopens := opens_openConnection d i n.registration n.registration.config.retries 0
        cases hkept : n.connection with
        | none =>
          simp only [connect, hnode, hkept]
          exact .of_opens hpin hpick hnode (hopens _)
        | some c =>
          let r₁ := { r with writerTurn := writerTurn, readerTurn := readerTurn }
          have hconnect : connect d i r₁ = _ := connect_of_kept d hnode hkept
          rw [hconnect]
          rcases d.ping c r.world with ⟨alive, world⟩
          cases alive with
          | true => exact .alive hpin hpick hnode hkept
          | false =>
            exact .of_opens hpin hpick hnode
              ((hopens _).after (Event.isProbe_ping c false) (l := .lost n.registration.name) rfl)

variable {r r₁ : Router σ} {role : Role} {name : Option String}
  {x : Except RouteError Connection}

/-- The pin is not touched by a look for a connection. -/
lemma Reach.pinned_eq (h : Reach r role name (x, r₁)) : r₁.pinned = r.pinned := by
  cases h <;> rfl

/-- While a transaction is open, its connection is all that is reached. -/
lemma Reach.of_pinned {c : Connection} (hpin : r.pinned = some c)
    (h : Reach r role name (x, r₁)) : x = .ok c ∧ r₁ = r := by
  cases h with
  | pinned hc => exact ⟨by rw [Option.some.inj (hpin.symm.trans hc)], rfl⟩
  | unpicked hnone | failed hnone | alive hnone | opened hnone =>
    rw [hpin] at hnone
    cases hnone

/-- To reach a connection takes no commands. -/
lemma Reach.events_eq (h : Reach r role name (x, r₁)) :
    ∃ trail, r₁.events = r.events ++ trail ∧ ∀ e ∈ trail, e.commanded = none := by
  cases h with
  | pinned | unpicked => exact ⟨[], by simp, by simp⟩
  | failed _ _ htrail => exact ⟨_, rfl, fun e he => (htrail e he).1⟩
  | alive => exact ⟨_, rfl, by simp [Event.commanded]⟩
  | opened _ _ _ htrail =>
    refine ⟨_, rfl, fun e he => ?_⟩
    rcases List.mem_append.mp he with he | he
    · exact (htrail e he).1
    · rw [List.mem_singleton.mp he]
      rfl

end Router

end SqlWeave
