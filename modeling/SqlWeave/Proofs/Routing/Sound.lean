import SqlWeave.Proofs.Routing.Steps

/-!
# What holds of a router at any time

The pin and the connection that a node keeps are two copies of one handle, and a node is found by
its position in lists that were made when the router was.  A router is sound if all of these fit
together, and if every connection it still has was opened for the node that keeps it.

* `Sound` — the invariant, for a topology.
* `Sound.ofTopology`, `Sound.course`, `Sound.lull` — it holds at first and is kept.
* `Session.sound` — it holds around every step of every session.
* `Sound.reached` — the connection that is reached is kept, and its node has the role.
-/

namespace SqlWeave

variable {σ α : Type} {d : Driver σ} {t : Topology} {r r₁ r' : Router σ}

/-! ## Opened connections -/

/-- The nodes to which connections were opened, one after another. -/
def openings (events : List Event) : List Nat :=
  events.filterMap Event.opened

lemma openings_append (events events' : List Event) :
    openings (events ++ events') = openings events ++ openings events' :=
  List.filterMap_append

lemma openings_eq_nil {events : List Event} (h : ∀ e ∈ events, e.opened = none) :
    openings events = [] :=
  List.filterMap_eq_nil_iff.mpr h

/-- Whether a connection was opened for a node: its serial number counts the openings up to its
own, which was to its node. -/
structure Connection.OpenedFor (c : Connection) (n : Registration) (events : List Event) :
    Prop where
  serial_pos : 0 < c.serial
  opening : (openings events)[c.serial - 1]? = some c.node
  name : c.name = n.name
  config : c.config = n.config

/-- Later calls leave the opening of a connection at its place. -/
lemma Connection.OpenedFor.append {c : Connection} {n : Registration} {events : List Event}
    (h : c.OpenedFor n events) (events' : List Event) : c.OpenedFor n (events ++ events') where
  serial_pos := h.serial_pos
  opening := by
    have hlt := (List.getElem?_eq_some_iff.mp h.opening).1
    rw [openings_append, List.getElem?_append_left hlt]
    exact h.opening
  name := h.name
  config := h.config

/-- Whether a connection is kept for the node at a position. -/
def Router.Keeps (r : Router σ) (i : Nat) (c : Connection) : Prop :=
  ∃ n, r.nodes[i]? = some n ∧ n.connection = some c

/-- Where no node has a connection none is kept. -/
lemma Router.not_keeps (h : ∀ n ∈ r.nodes, n.connection = none) (i : Nat) (c : Connection) :
    ¬r.Keeps i c := by
  rintro ⟨n, hn, hc⟩
  rw [h n (List.mem_of_getElem? hn)] at hc
  cases hc

/-- A connection that takes the place of another one is all that is new. -/
lemma Router.keeps_of_modify {i j : Nat} {c new : Connection}
    (hnodes : r₁.nodes = r.nodes.modify i fun m => { m with connection := some new })
    (h : r₁.Keeps j c) : i = j ∧ c = new ∨ r.Keeps j c := by
  obtain ⟨m, hm, hc⟩ := h
  simp only [hnodes, List.getElem?_modify, Option.map_eq_map, Option.map_eq_some_iff] at hm
  obtain ⟨m₀, hm₀, rfl⟩ := hm
  by_cases hij : i = j
  · exact .inl ⟨hij, by simpa [hij] using hc.symm⟩
  · rw [if_neg hij] at hc
    exact .inr ⟨m₀, hm₀, hc⟩

/-! ## The invariant -/

/-- What holds of a router of a topology at any time. -/
structure Sound (t : Topology) (r : Router σ) : Prop where
  topology : r.topology = t
  registered : r.nodes.map (·.registration) = t.registrations
  writers : r.writers = positions Registration.writes t.registrations
  readers : r.readers = positions Registration.reads t.registrations
  counted : (openings r.events).length = r.opened
  kept : ∀ {i c}, r.Keeps i c →
    c.node = i ∧ ∃ n, t.registrations[i]? = some n ∧ c.OpenedFor n r.events
  pinned : ∀ {c}, r.pinned = some c → c.node ∈ r.writers ∧ r.Keeps c.node c

/-- Only a topology that passes its check has a router. -/
lemma Topology.validate_of_ofTopology {world : σ} (h : Router.ofTopology t world = .ok r) :
    t.validate = .ok t := by
  rw [Router.ofTopology, Topology.validate] at *
  cases hfault : t.fault? with
  | none => rfl
  | some fault => simp [hfault, Except.map] at h

/-- Before its first operation a router has made no calls and keeps no connection. -/
lemma Router.untouched {world : σ} (h : Router.ofTopology t world = .ok r) :
    r.events = [] ∧ ∀ i c, ¬r.Keeps i c := by
  rw [Router.ofTopology, Topology.validate_of_ofTopology h] at h
  obtain rfl := Except.ok.inj h
  exact ⟨rfl, Router.not_keeps (by simp)⟩

/-- **A new router is sound**: no connection is kept and none is pinned. -/
theorem Sound.ofTopology {world : σ} (h : Router.ofTopology t world = .ok r) : Sound t r := by
  have hkept := (Router.untouched h).2
  rw [Router.ofTopology, Topology.validate_of_ofTopology h] at h
  obtain rfl := Except.ok.inj h
  exact ⟨rfl, by simp [Function.comp_def], rfl, rfl, rfl, fun hkeeps => absurd hkeeps (hkept _ _),
    nofun⟩

namespace Sound

/-- The invariant does not look at the turns, the world or the log, and of the calls only at the
openings. -/
lemma update (h : Sound t r) {writerTurn readerTurn : UInt64} {world : σ} {calls : List Event}
    {pin : Option Connection} {log : List LogRecord} (hcalls : ∀ e ∈ calls, e.opened = none)
    (hpin : ∀ c, pin = some c → c.node ∈ r.writers ∧ r.Keeps c.node c) :
    Sound t { r with
      writerTurn := writerTurn
      readerTurn := readerTurn
      pinned := pin
      world := world
      events := r.events ++ calls
      log := log } where
  topology := h.topology
  registered := h.registered
  writers := h.writers
  readers := h.readers
  counted := by rw [openings_append, openings_eq_nil hcalls, List.append_nil, h.counted]
  kept hkeeps := by
    obtain ⟨hnode, n, hn, hc⟩ := h.kept hkeeps
    exact ⟨hnode, n, hn, hc.append calls⟩
  pinned hc := hpin _ hc

/-- **Between two steps** only the world and the log change. -/
lemma lull (h : Sound t r) (hlull : Lull r r') : Sound t r' := by
  obtain ⟨world, notes, rfl, -⟩ := hlull
  have hnone : ∀ e ∈ ([] : List Event), e.opened = none := by simp
  have hsame := @update σ t r h r.writerTurn r.readerTurn world [] r.pinned (r.log ++ notes) hnone
    fun _ => h.pinned
  rwa [List.append_nil] at hsame

/-- The registration of the node at a position. -/
lemma registration_eq (h : Sound t r) {i : Nat} {n : Node} (hn : r.nodes[i]? = some n) :
    t.registrations[i]? = some n.registration := by
  rw [← h.registered, List.getElem?_map, hn]
  rfl

/-- The next connection takes the place of the one that is kept for its node. -/
lemma keep_next (h : Sound t r) {i : Nat} {n : Node} {writerTurn readerTurn : UInt64} {world : σ}
    {trail : List Event} {log : List LogRecord} (hpin : r.pinned = none)
    (hn : r.nodes[i]? = some n) (htrail : ∀ e ∈ trail, e.opened = none) :
    Sound t { r with
      nodes := r.nodes.modify i fun m =>
        { m with connection := some (r.nextConnection i n.registration) }
      writerTurn := writerTurn
      readerTurn := readerTurn
      opened := r.opened + 1
      world := world
      events := r.events ++ (trail ++ [.connect i n.registration.config.dsn true])
      log := log } where
  topology := h.topology
  registered := by
    rw [← h.registered]
    refine List.ext_getElem? fun j => ?_
    rw [List.getElem?_map, List.getElem?_modify, List.getElem?_map]
    cases r.nodes[j]? with
    | none => rfl
    | some m =>
      by_cases hij : i = j
      · simp [hij]
      · simp [hij]
  writers := h.writers
  readers := h.readers
  counted := by
    rw [openings_append, openings_append, openings_eq_nil htrail]
    simp [openings, ← h.counted, Event.opened]
  kept := by
    intro j c hkeeps
    rcases Router.keeps_of_modify rfl hkeeps with ⟨rfl, rfl⟩ | hkeeps
    · refine ⟨rfl, n.registration, h.registration_eq hn, Nat.succ_pos _, ?_, rfl, rfl⟩
      rw [openings_append, openings_append, openings_eq_nil htrail]
      -- As many connections were opened before it as its number says, so its opening comes last.
      have hlength : (r.nextConnection i n.registration).serial - 1 = (openings r.events).length :=
        h.counted.symm
      rw [hlength]
      simp [openings, Event.opened, Router.nextConnection]
    · obtain ⟨hnode, n', hn', hc'⟩ := h.kept hkeeps
      exact ⟨hnode, n', hn', hc'.append _⟩
  pinned hc := by rw [hpin] at hc; cases hc

/-- **Reaching a connection** keeps the invariant, with the new connection in the place of a lost
one. -/
lemma reach {role : Role} {name : Option String} {x : Except RouteError Connection}
    (h : Sound t r) (hreach : Router.Reach r role name (x, r₁)) : Sound t r₁ := by
  cases hreach with
  | pinned | unpicked => exact h
  | failed hpin hpick htrail hnotes =>
    exact h.update (fun e he => (htrail e he).2) fun _ => h.pinned
  | alive hpin hpick hnode hkept => exact h.update (by simp [Event.opened]) fun _ => h.pinned
  | opened hpin hpick hnode htrail hnotes =>
    exact h.keep_next hpin hnode fun e he => (htrail e he).2

/-- The connection that is reached is kept, and unless a transaction is open its node was picked
for the role. -/
lemma reached {role : Role} {name : Option String} {c : Connection} (h : Sound t r)
    (hreach : Router.Reach r role name (.ok c, r₁)) :
    r₁.Keeps c.node c ∧ (r.pinned = some c ∨ r.pinned = none ∧ c.node ∈ r.candidates role) := by
  cases hreach with
  | pinned hpin => exact ⟨(h.pinned hpin).2, .inl hpin⟩
  | alive hpin hpick hnode hkept =>
    obtain ⟨rfl, -⟩ := h.kept ⟨_, hnode, hkept⟩
    exact ⟨⟨_, hnode, hkept⟩, .inr ⟨hpin, Router.mem_of_pick hpick⟩⟩
  | @opened i n _ _ _ _ _ hpin hpick hnode =>
    refine ⟨?_, .inr ⟨hpin, Router.mem_of_pick hpick⟩⟩
    refine ⟨{ n with connection := some (r.nextConnection i n.registration) }, ?_, rfl⟩
    rw [Router.nextConnection, List.getElem?_modify, hnode, Option.map_eq_map, Option.map_some,
      if_pos rfl]

/-- Sending a statement opens nothing. -/
lemma opened_of_sent {c : Connection} {s : Statement} {calls : List Event} (h : Sent c s calls) :
    ∀ e ∈ calls, e.opened = none := by
  cases h <;> simp [Event.opened]

/-- A router that gave up its connections is sound. -/
lemma without_connections {log : List LogRecord} (h : Sound t r) :
    Sound t { r with
      pinned := none
      nodes := r.nodes.map fun n => { n with connection := none }
      log := log } where
  topology := h.topology
  registered := by simp [← h.registered, Function.comp_def]
  writers := h.writers
  readers := h.readers
  counted := h.counted
  kept hkeeps := absurd hkeeps (Router.not_keeps (by simp) _ _)
  pinned := nofun

/-- **Every operation keeps a router sound.** -/
theorem course {o : Operation} {answer : Except RouteError Answer} (h : Sound t r)
    (hcourse : Course r o (answer, r')) : Sound t r' := by
  cases hcourse with
  | misplaced | refused => exact h
  | unreached _ _ hreach | handed _ _ hreach => exact h.reach hreach
  | begun _ hpin hreach =>
    have h₁ := h.reach hreach
    obtain ⟨hkeeps, hpicked⟩ := h.reached hreach
    have hmem : _ ∈ r.writers := (hpicked.resolve_left (by simp [hpin])).2
    rw [h.writers, ← h₁.writers] at hmem
    refine h₁.update (by simp [Event.opened]) fun c hc => ?_
    obtain rfl := Option.some.inj hc
    exact ⟨hmem, hkeeps⟩
  | unbegun _ hpin hreach =>
    exact (h.reach hreach).update (by simp [Event.opened]) fun _ => (h.reach hreach).pinned
  | sent _ _ hreach hsent =>
    exact (h.reach hreach).update (opened_of_sent hsent) fun _ => (h.reach hreach).pinned
  | ended hkind hpin =>
    refine h.update ?_ nofun
    cases hkind <;> simp [Event.opened]
  | disconnected => exact h.without_connections

end Sound

/-- **A router is sound around every step of a session.** -/
theorem Session.sound {world : σ} (h : Router.ofTopology t world = .ok r) (d : Driver σ)
    (s : Session σ α) :
    (∀ m ∈ s.steps d r, Sound t m.before ∧ Sound t m.after) ∧ Sound t (s.run d r).2 :=
  (s.linked d r).invariant (fun hlull h => h.lull hlull)
    (fun _ hm h => h.course ((s.linked d r).course hm)) (.ofTopology h)

end SqlWeave
