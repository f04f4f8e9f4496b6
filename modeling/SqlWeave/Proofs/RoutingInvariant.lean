import SqlWeave.Proofs.ReadWriteSplit
import SqlWeave.Proofs.Routing.Sending

/-!
# What a router always has

A router finds nodes by positions in two lists that it made once, and the connection of an open
transaction is a second copy of the one that its node keeps.  The topology's check and the way in
which nodes are registered are all that these positions rest on.

* `Router.InOrder` — **the specification**: the lists fit the nodes and the mode, and the pin fits
  the node.
* `Sound.inOrder` — a sound router of a checked topology is in order.
* `Router.connection_error` — which failures reaching a connection can have.
* `Operation.silent_failure` — an operation that fails without a command was refused, or reached no
  connection.
* `routing_invariant` — the statement for every session.
-/

namespace SqlWeave

variable {σ α : Type} {d : Driver σ} {t : Topology} {r r₁ : Router σ} {o : Operation}

/-! ## Positions -/

/-- A position is in the list exactly if there is a node that is taken. -/
lemma mem_positions_iff {takes : Registration → Bool} {nodes : List Registration} {i : Nat} :
    i ∈ positions takes nodes ↔ ∃ n, nodes[i]? = some n ∧ takes n = true := by
  refine ⟨mem_positions, fun ⟨n, hn, htakes⟩ => ?_⟩
  refine List.mem_map.mpr ⟨(n, i), List.mem_filter.mpr ⟨?_, htakes⟩, rfl⟩
  exact List.mem_zipIdx_iff_getElem?.mpr hn

lemma positions_eq_nil_iff {takes : Registration → Bool} {nodes : List Registration} :
    positions takes nodes = [] ↔ ∀ n ∈ nodes, takes n = false := by
  simp only [List.eq_nil_iff_forall_not_mem, mem_positions_iff, not_exists, not_and,
    Bool.not_eq_true]
  constructor
  · intro h n hn
    obtain ⟨i, hi⟩ := List.getElem?_of_mem hn
    exact h i n hi
  · exact fun h i n hi => h n (List.mem_of_getElem? hi)

/-- Only what is taken matters, not how that is told. -/
lemma positions_congr {takes takes' : Registration → Bool} {nodes : List Registration}
    (h : ∀ n ∈ nodes, takes n = takes' n) : positions takes nodes = positions takes' nodes := by
  rw [positions, positions]
  congr 1
  exact List.filter_congr fun e he => h _ (List.fst_mem_of_mem_zipIdx he)

/-- Nodes that take part in one role alone are at positions of one list alone. -/
lemma disjoint_positions {takes takes' : Registration → Bool} {nodes : List Registration}
    (h : ∀ n ∈ nodes, takes n = true → takes' n = false) :
    (positions takes nodes).Disjoint (positions takes' nodes) := by
  intro i hi hi'
  obtain ⟨n, hn, htakes⟩ := mem_positions_iff.mp hi
  obtain ⟨n', hn', htakes'⟩ := mem_positions_iff.mp hi'
  obtain rfl := Option.some.inj (hn.symm.trans hn')
  rw [h n (List.mem_of_getElem? hn) htakes] at htakes'
  cases htakes'

/-! ## Registered nodes -/

namespace Topology

/-- Whether nothing may be read outside of a transaction: reading and writing are apart, and there
are no nodes for reading. -/
def Unreadable (t : Topology) : Prop :=
  t.mode = .masterSlave ∧ t.slaves.entries = [] ∧ t.readers.entries = []

/-- Unless reading and writing are apart, every node does both. -/
lemma writes_and_reads (hmode : t.mode ≠ .masterSlave) :
    ∀ n ∈ t.registrations, n.writes = true ∧ n.reads = true := by
  intro n hn
  cases hmode' : t.mode with
  | masterSlave => exact absurd hmode' hmode
  | single | cluster =>
    simp only [registrations, hmode', List.mem_map] at hn
    obtain ⟨_, _, rfl⟩ := hn
    exact ⟨rfl, rfl⟩

/-- A checked topology has a node that changes data. -/
lemma exists_writes (h : t.validate = .ok t) : ∃ n ∈ t.registrations, n.writes = true := by
  have hfault : t.fault? = none := by
    rw [validate] at h
    cases hfault : t.fault? with
    | none => rfl
    | some fault => simp [hfault] at h
  -- In each mode an empty section that would hold the writers is a fault.
  cases hmode : t.mode with
  | single =>
    simp only [fault?, hmode] at hfault
    cases hsolo : t.solo with
    | none => simp [hsolo] at hfault
    | some n => exact ⟨⟨"default", "default", n, true, true⟩, by simp [registrations, hmode, hsolo]⟩
  | masterSlave =>
    simp only [fault?, hmode] at hfault
    rw [registrations_masterSlave hmode]
    cases hmaster : t.master with
    | some n =>
      exact ⟨⟨"writer.master", "master", n, true, false⟩, by simp [writerNodes, hmaster]⟩
    | none =>
      cases hwriters : t.writers.entries with
      | nil => simp [hmaster, NameMap.isEmpty, hwriters] at hfault
      | cons e es =>
        exact ⟨⟨"writer." ++ e.1, e.1, e.2, true, false⟩, by simp [writerNodes, hwriters]⟩
  | cluster =>
    simp only [fault?, hmode] at hfault
    cases hnodes : t.nodes.entries with
    | nil => simp [NameMap.isEmpty, hnodes] at hfault
    | cons e es => exact ⟨⟨e.1, e.1, e.2, true, true⟩, by simp [registrations, hmode, hnodes]⟩

/-- Where reading and writing are apart, no node does both. -/
lemma not_reads_of_writes (hmode : t.mode = .masterSlave) :
    ∀ n ∈ t.registrations, n.writes = true → n.reads = false := by
  intro n hn hwrites
  rw [registrations_masterSlave hmode] at hn
  rcases List.mem_append.mp hn with hn | hn
  · exact (of_mem_writerNodes hn).2
  · rw [(of_mem_readerNodes hn).1] at hwrites
    cases hwrites

/-- No node is read exactly where there is none to be read. -/
lemma forall_not_reads_iff (h : t.validate = .ok t) :
    (∀ n ∈ t.registrations, n.reads = false) ↔ t.Unreadable := by
  constructor
  · intro hnone
    have hmode : t.mode = .masterSlave := by
      by_contra hmode
      obtain ⟨n, hn, -⟩ := exists_writes h
      have hreads := (writes_and_reads hmode n hn).2
      rw [hnone n hn] at hreads
      cases hreads
    have hempty : t.slaves.entries ++ t.readers.entries = [] := by
      refine List.eq_nil_iff_forall_not_mem.mpr fun e he => ?_
      have hmem : ⟨"reader." ++ e.1, e.1, e.2, false, true⟩ ∈ t.registrations := by
        rw [registrations_masterSlave hmode]
        exact List.mem_append_right _ (List.mem_map.mpr ⟨e, he, rfl⟩)
      exact Bool.noConfusion (hnone _ hmem)
    exact ⟨hmode, List.append_eq_nil_iff.mp hempty⟩
  · rintro ⟨hmode, hslaves, hreaders⟩ n hn
    have hnone : t.readerNodes = [] := by simp [readerNodes, hslaves, hreaders]
    rw [registrations_masterSlave hmode, hnone, List.append_nil] at hn
    exact (of_mem_writerNodes hn).2

end Topology

/-! ## The specification -/

/-- **What holds of a router of a topology whatever was done with it.**  There is a writer, the
writers and readers are positions of nodes, they are apart or the same as the mode says, and the
connection of an open transaction is the one that is kept for a writer. -/
structure Router.InOrder (t : Topology) (r : Router σ) : Prop where
  writers_ne_nil : r.writers ≠ []
  inRange : ∀ role, ∀ i ∈ r.candidates role, i < r.nodes.length
  apart : t.mode = .masterSlave → r.writers.Disjoint r.readers
  same : t.mode ≠ .masterSlave → r.writers = r.readers
  pinned : ∀ c, r.pinned = some c → c.node ∈ r.writers ∧ r.Keeps c.node c

namespace Sound

/-- A sound router of a checked topology is in order. -/
theorem inOrder (ht : t.validate = .ok t) (h : Sound t r) : r.InOrder t where
  writers_ne_nil := by
    rw [h.writers, ne_eq, positions_eq_nil_iff]
    intro hnone
    obtain ⟨n, hn, hwrites⟩ := Topology.exists_writes ht
    rw [hnone n hn] at hwrites
    cases hwrites
  inRange role i hi := by
    obtain ⟨n, hn, -⟩ := h.takes_of_candidate hi
    have hlt := (List.getElem?_eq_some_iff.mp hn).1
    rwa [← h.registered, List.length_map] at hlt
  apart hmode := by
    rw [h.writers, h.readers]
    exact disjoint_positions (Topology.not_reads_of_writes hmode)
  same hmode := by
    rw [h.writers, h.readers]
    refine positions_congr fun n hn => ?_
    obtain ⟨hwrites, hreads⟩ := Topology.writes_and_reads hmode n hn
    rw [hwrites, hreads]
  pinned _ hpin := h.pinned hpin

/-- There is nothing to be read if the topology has no node for it; opening and losing connections
change nothing about that. -/
lemma readers_eq_nil_iff (ht : t.validate = .ok t) (h : Sound t r) :
    r.readers = [] ↔ t.Unreadable := by
  rw [h.readers, positions_eq_nil_iff]
  exact Topology.forall_not_reads_iff ht

end Sound

/-! ## Failures to reach a connection -/

/-- The failure where no node takes part in a role. -/
def Role.missing : Role → RouteError
  | .writer => .noWriter
  | .reader => .noReader

namespace Router

/-- A connection that cannot be opened is reported under the name of its node. -/
lemma openConnection_error {i : Nat} {n : Registration} {left made : Nat} {e : RouteError}
    (h : (openConnection d i n left made r).1 = .error e) :
    ∃ message, e = .connect n.name message := by
  induction left generalizing made r with
  | zero =>
    simp only [openConnection, knock_eq] at h
    generalize d.connect n.config r.world = result at h
    obtain ⟨outcome, world⟩ := result
    cases outcome with
    | ok x => cases h
    | error e' => exact ⟨_, (Except.error.inj h).symm⟩
  | succ left ih =>
    simp only [openConnection, knock_eq] at h
    generalize d.connect n.config r.world = result at h
    obtain ⟨outcome, world⟩ := result
    cases outcome with
    | ok x => cases h
    | error e' => exact ih h

/-- Nor does it matter that an opened connection would be kept. -/
lemma reopen_error {i : Nat} {n : Registration} {e : RouteError}
    (h : (reopen d i n r).1 = .error e) : ∃ message, e = .connect n.name message := by
  simp only [reopen] at h
  cases hopen : openConnection d i n n.config.retries 0 r with
  | mk outcome r₁ =>
    cases outcome with
    | ok c => simp [hopen] at h
    | error e' =>
      simp only [hopen] at h
      obtain rfl := Except.error.inj h
      exact openConnection_error (r := r) (by rw [hopen])

/-- At the position of a node there is no failure but that. -/
lemma connect_error {i : Nat} {e : RouteError} (hi : i < r.nodes.length)
    (h : (connect d i r).1 = .error e) : ∃ node message, e = .connect node message := by
  have hnode := List.getElem?_eq_getElem hi
  cases hkept : r.nodes[i].connection with
  | none =>
    simp only [connect, hnode, hkept] at h
    exact ⟨_, reopen_error h⟩
  | some c =>
    rw [connect_of_kept d hnode hkept] at h
    split_ifs at h
    exact ⟨_, reopen_error h⟩

/-- Picking fails in two ways only, and neither of them calls the driver. -/
lemma pick_error {role : Role} {name : Option String} {e : RouteError}
    (h : (pick role name r).1 = .error e) :
    (r.candidates role = [] ∧ e = role.missing) ∨ ∃ name, e = .unknownConnection role name := by
  simp only [pick] at h
  split_ifs at h with hempty
  · refine .inl ⟨List.isEmpty_iff.mp hempty, ?_⟩
    cases role <;> exact (Except.error.inj h).symm
  · cases name with
    | none => cases h
    | some name =>
      cases hfind : (r.candidates role).find? (r.hasKey name) with
      | some i => simp [hfind] at h
      | none =>
        simp only [hfind] at h
        exact .inr ⟨name, (Except.error.inj h).symm⟩

/-- **The failures to reach a connection**: there is nothing to be read, a name is not known, or a
node was not reached. -/
lemma connection_error {role : Role} {name : Option String} {e : RouteError} (h : r.InOrder t)
    (hfailed : (connection d role name r).1 = .error e) :
    (role = .reader ∧ r.readers = [] ∧ r.pinned = none ∧ e = .noReader) ∨
      (∃ name, e = .unknownConnection role name) ∨ ∃ node message, e = .connect node message := by
  cases hpin : r.pinned with
  | some c => simp [connection, hpin] at hfailed
  | none =>
    simp only [connection, hpin, Action.bind] at hfailed
    rcases pick_cases r role name with ⟨e', hpick⟩ | ⟨i, hi, _, _, hpick⟩
    · simp only [hpick] at hfailed
      obtain rfl := Except.error.inj hfailed
      rcases pick_error (r := r) (by rw [hpick]) with ⟨hnone, hmissing⟩ | hunknown
      · cases role with
        | writer => exact absurd hnone h.writers_ne_nil
        | reader => exact .inl ⟨rfl, hnone, rfl, hmissing⟩
      · exact .inr (.inl hunknown)
    · simp only [hpick] at hfailed
      exact .inr (.inr (connect_error (by exact h.inRange role i hi) hfailed))

/-- A reader is missed before any node is asked. -/
lemma connection_of_no_readers {name : Option String} (d : Driver σ) (hpin : r.pinned = none)
    (hnone : r.readers = []) : connection d .reader name r = (.error .noReader, r) := by
  simp only [connection, hpin, Action.bind, pick, candidates, hnone, List.isEmpty_nil, if_true]

/-- A router always has a writer, so that failure is not met. -/
lemma connection_ne_noWriter {role : Role} {name : Option String} (h : r.InOrder t) :
    (connection d role name r).1 ≠ .error .noWriter := by
  intro hfailed
  rcases connection_error h hfailed with ⟨-, -, -, he⟩ | ⟨_, he⟩ | ⟨_, _, he⟩ <;> cases he

/-- There is no reader exactly if there is nothing to be read and no transaction is open. -/
lemma connection_eq_noReader_iff {role : Role} {name : Option String} (h : r.InOrder t) :
    (connection d role name r).1 = .error .noReader ↔
      role = .reader ∧ r.readers = [] ∧ r.pinned = none := by
  constructor
  · intro hfailed
    rcases connection_error h hfailed with ⟨hrole, hnone, hpin, -⟩ | ⟨_, he⟩ | ⟨_, _, he⟩
    · exact ⟨hrole, hnone, hpin⟩
    · cases he
    · cases he
  · rintro ⟨rfl, hnone, hpin⟩
    rw [connection_of_no_readers d hpin hnone]

end Router

/-! ## Failures of operations -/

/-- The connections to which commands were sent, one after another. -/
def commanded (events : List Event) : List Connection :=
  events.filterMap Event.commanded

/-- Whether no command was sent in a step, so that the driver had nothing to answer. -/
def Step.Silent (m : Step σ) : Prop :=
  commanded m.after.events = commanded m.before.events

lemma commanded_append_ne {events calls : List Event} {e : Event} {c : Connection}
    (h : e.commanded = some c) :
    commanded (events ++ e :: calls) ≠ commanded events := by
  intro heq
  rw [commanded, List.filterMap_append, List.filterMap_cons_some h] at heq
  exact List.cons_ne_nil _ _ (List.append_right_eq_self.mp heq)

/-- Looking for a connection sends no command. -/
lemma commanded_append_trail {events trail : List Event} (h : ∀ e ∈ trail, e.commanded = none) :
    commanded (events ++ trail) = commanded events := by
  rw [commanded, List.filterMap_append, List.filterMap_eq_nil_iff.mpr h, List.append_nil]
  rfl

namespace Operation

/-- What is refused is refused for itself. -/
lemma prepared_error {e : RouteError} (h : o.prepared r = .error e) :
    e ≠ .noWriter ∧ e ≠ .noReader := by
  cases o with
  | writer | reader | disconnect | selectRaw | executeRaw => cases h
  | begin | commit | rollback =>
    simp only [prepared] at h
    split_ifs at h
    obtain rfl := Except.error.inj h
    simp
  | select q | execute q =>
    simp only [prepared] at h
    split_ifs at h
    all_goals
      first
        | obtain ⟨e', -, rfl⟩ := finished_of_error h
        | obtain rfl := Except.error.inj h
      simp
  | insertReturning q =>
    simp only [prepared] at h
    cases hsequence : q.sequence with
    | none =>
      simp only [hsequence] at h
      obtain rfl := Except.error.inj h
      simp
    | some sequence =>
      simp only [hsequence] at h
      obtain ⟨e', -, rfl⟩ := finished_of_error h
      simp

/-- Where an operation fails on a connection, the driver was asked. -/
lemma proceed_cases (d : Driver σ) (c : Connection) {p : Option (StatementKind × Statement)}
    (hp : o.prepared r = .ok p) (r₁ : Router σ) :
    (o.proceed d c p r₁).1.isOk = true ∨
      ∃ e calls, e.commanded = some c ∧
        (o.proceed d c p r₁).2.events = r₁.events ++ e :: calls := by
  have hsome := isSome_of_prepared hp
  cases p with
  | some statement =>
    obtain ⟨kind, s⟩ := statement
    obtain ⟨world, calls, hsent, hafter⟩ := proceed_statement d kind c s hsome.symm r₁
    rw [hafter]
    refine .inr ?_
    cases hsent with
    | query ok => exact ⟨_, [], rfl, rfl⟩
    | execute ok => exact ⟨_, [], rfl, rfl⟩
    | insert sequence ok => exact ⟨_, _, rfl, rfl⟩
  | none =>
    cases o with
    | select | execute | insertReturning | selectRaw | executeRaw => cases hsome
    | writer | reader | commit | rollback | disconnect => exact .inl rfl
    | begin =>
      refine .inr ⟨.begin c (d.begin c r₁.world).1.isOk, [], rfl, ?_⟩
      simp only [proceed, Action.bind_apply, Action.attempt_apply]
      rcases d.begin c r₁.world with ⟨outcome, world⟩
      cases outcome <;> rfl

/-- An operation that ends a transaction asks the driver, or has nothing to ask it. -/
lemma ending_cases (d : Driver σ) {p : Option (StatementKind × Statement)}
    (hp : o.prepared r = .ok p) (hwanted : o.wanted? = none) :
    (o.run d r).1.isOk = true ∨
      ∃ e c, e.commanded = some c ∧ (o.run d r).2.events = r.events ++ [e] := by
  -- They are refused without a transaction, so there is a pin.
  have hpinned (h : o = .commit ∨ o = .rollback) : ∃ c, r.pinned = some c := by
    rw [← Option.isSome_iff_exists]
    by_contra hpin
    rcases h with rfl | rfl <;> simp [prepared, Router.inTransaction, hpin] at hp
  cases o with
  | disconnect => exact .inl rfl
  | commit =>
    obtain ⟨c, hpin⟩ := hpinned (.inl rfl)
    refine .inr ⟨.commit c (d.commit c r.world).1.isOk, c, rfl, ?_⟩
    simp only [run, Router.commit, Action.bind_apply, Router.release, hpin, Action.attempt_apply]
    rcases d.commit c r.world with ⟨outcome, world⟩
    cases outcome <;> rfl
  | rollback =>
    obtain ⟨c, hpin⟩ := hpinned (.inr rfl)
    refine .inr ⟨.rollback c (d.rollback c r.world).1.isOk, c, rfl, ?_⟩
    simp only [run, Router.rollback, Action.bind_apply, Router.release, hpin, Action.attempt_apply]
    rcases d.rollback c r.world with ⟨outcome, world⟩
    cases outcome <;> rfl
  | _ => cases hwanted

/-- **An operation that fails without a command was refused, or reached no connection.** -/
lemma silent_failure {e : RouteError} (hfailed : (o.run d r).1 = .error e)
    (hsilent : (o.step d r).Silent) :
    o.prepared r = .error e ∨ ∃ role name p, o.wanted? = some (role, name) ∧
      o.prepared r = .ok p ∧ (Router.connection d role name r).1 = .error e := by
  cases hp : o.prepared r with
  | error e' =>
    rw [run_of_refused d hp] at hfailed
    exact .inl (congrArg _ (Except.error.inj hfailed))
  | ok p =>
    refine .inr ?_
    simp only [Step.Silent, step] at hsilent
    -- With a connection in hand the driver is asked, so a silent failure comes before that.
    cases hwanted : o.wanted? with
    | none =>
      rcases ending_cases d hp hwanted with hok | ⟨e', c, hc, hevents⟩
      · rw [hfailed] at hok
        cases hok
      · rw [hevents] at hsilent
        exact absurd hsilent (commanded_append_ne hc)
    | some wanted =>
      obtain ⟨role, name⟩ := wanted
      refine ⟨role, name, p, rfl, rfl, ?_⟩
      have hreach := Router.reach_connection d role name r
      rw [run_of_prepared d hp hwanted, Action.bind_apply] at hfailed hsilent
      generalize Router.connection d role name r = result at hreach hfailed hsilent ⊢
      obtain ⟨outcome, r₁⟩ := result
      cases outcome with
      | error e' => exact congrArg _ (Except.error.inj hfailed)
      | ok c =>
        obtain ⟨trail, htrail, hprobes⟩ := hreach.events_eq
        have hsearch : commanded r₁.events = commanded r.events := by
          rw [htrail, commanded_append_trail hprobes]
        simp only at hfailed hsilent
        rcases proceed_cases d c hp r₁ with hok | ⟨e', calls, hc, hevents⟩
        · rw [hfailed] at hok
          cases hok
        · rw [hevents, ← hsearch] at hsilent
          exact absurd hsilent (commanded_append_ne hc)

end Operation

/-! ## The statement -/

/-- **What a router always has**, for every topology that passes its check, every driver and every
session.  Around every step it is in order, so that a turn is taken among nodes that exist.  Then
nothing lacks a writer, and a reader is lacked exactly where the topology has none, outside of a
transaction.  If nothing is sent, operations fail in no other way for the lack of a node. -/
theorem routing_invariant (ht : t.validate = .ok t) (world : σ) (d : Driver σ)
    (s : Session σ α) :
    ∃ r, Router.ofTopology t world = .ok r ∧ (s.run d r).2.InOrder t ∧
      ∀ m ∈ s.steps d r, m.before.InOrder t ∧ m.after.InOrder t ∧
        -- Picking a node and reaching a connection
        (∀ role name,
          (∀ i r₁, Router.pick role name m.before = (.ok i, r₁) →
            i ∈ m.before.candidates role ∧ i < m.before.nodes.length) ∧
          (Router.connection d role name m.before).1 ≠ .error .noWriter ∧
          ((Router.connection d role name m.before).1 = .error .noReader ↔
            role = .reader ∧ t.Unreadable ∧ m.before.inTransaction = false)) ∧
        -- Whole operations
        (m.Silent → m.answer ≠ .error .noWriter ∧
          (m.answer = .error .noReader ↔ (∃ name, m.operation.wanted? = some (.reader, name)) ∧
            (∃ p, m.operation.prepared m.before = .ok p) ∧
            t.Unreadable ∧ m.before.inTransaction = false)) := by
  obtain ⟨r, hr⟩ : ∃ r, Router.ofTopology t world = .ok r := by
    rw [Router.ofTopology, ht]
    exact ⟨_, rfl⟩
  obtain ⟨hsteps, hend⟩ := Session.sound hr d s
  refine ⟨r, hr, hend.inOrder ht, fun m hm => ?_⟩
  obtain ⟨hbefore, hafter⟩ := hsteps m hm
  have horder := hbefore.inOrder ht
  have hlacking : ∀ (role : Role) (name : Option String),
      (Router.connection d role name m.before).1 = .error .noReader ↔
        role = .reader ∧ t.Unreadable ∧ m.before.inTransaction = false := by
    intro role name
    rw [Router.connection_eq_noReader_iff horder, hbefore.readers_eq_nil_iff ht,
      Router.inTransaction, Option.isSome_eq_false_iff, Option.isNone_iff_eq_none]
  refine ⟨horder, hafter.inOrder ht,
    fun role name => ⟨fun i r₁ hpick => ?_, ?_, hlacking role name⟩, fun hsilent => ?_⟩
  · have hmem := Router.mem_of_pick hpick
    exact ⟨hmem, horder.inRange role i hmem⟩
  · exact Router.connection_ne_noWriter horder
  · have hstep := (s.linked d r).eq_step hm
    have hanswer : m.answer = (m.operation.run d m.before).1 := congrArg Step.answer hstep
    rw [hstep] at hsilent
    rw [hanswer]
    refine ⟨fun hfailed => ?_, fun hfailed => ?_, ?_⟩
    · rcases Operation.silent_failure hfailed hsilent with hp | ⟨role, name, p, -, -, hfailed⟩
      · exact (Operation.prepared_error hp).1 rfl
      · exact Router.connection_ne_noWriter horder hfailed
    · rcases Operation.silent_failure hfailed hsilent with
        hp | ⟨role, name, p, hwanted, hp, hfailed⟩
      · exact absurd rfl (Operation.prepared_error hp).2
      · obtain ⟨rfl, hlack⟩ := (hlacking role name).mp hfailed
        exact ⟨⟨name, hwanted⟩, ⟨p, hp⟩, hlack⟩
    · rintro ⟨⟨name, hwanted⟩, ⟨p, hp⟩, hlack⟩
      rw [Operation.run_of_prepared d hp hwanted, Action.bind_apply]
      have hfailed := (hlacking .reader name).mpr ⟨rfl, hlack⟩
      generalize Router.connection d .reader name m.before = result at hfailed ⊢
      obtain ⟨outcome, r₁⟩ := result
      obtain rfl : outcome = .error .noReader := hfailed
      rfl

/-- A topology with one writer and nothing to be read: outside of the transaction there is no
reader, and inside of it the pinned writer is one. -/
theorem routing_invariant_without_readers :
    let t : Topology := { Topology.pair with slaves := .empty }
    let d := Script.driver Unit
    let s : Session (Script × Unit) Unit :=
      .call (.reader none) fun _ => .call .begin fun _ => .call (.reader none) fun _ =>
        .finish (.ok ())
    t.validate = .ok t ∧ ∃ r, Router.ofTopology t (Script.smooth, ()) = .ok r ∧
      (s.steps d r).map (fun m => m.before.inTransaction) = [false, false, true] ∧
      ∀ m ∈ s.steps d r, m.after.InOrder t ∧
        ((Router.connection d .reader none m.before).1 = .error .noReader ↔
          m.before.inTransaction = false) := by
  intro t d s
  have ht : t.validate = .ok t := rfl
  have hunreadable : t.Unreadable := ⟨rfl, rfl, rfl⟩
  obtain ⟨r, hr, hopen⟩ : ∃ r, Router.ofTopology t (Script.smooth, ()) = .ok r ∧
      (s.steps d r).map (fun m => m.before.inTransaction) = [false, false, true] :=
    ⟨_, rfl, by decide +kernel⟩
  obtain ⟨r', hr', -, hsteps⟩ := routing_invariant ht (Script.smooth, ()) d s
  obtain rfl := Except.ok.inj (hr.symm.trans hr')
  refine ⟨ht, r, hr, hopen, fun m hm => ?_⟩
  obtain ⟨-, hafter, hreaching, -⟩ := hsteps m hm
  refine ⟨hafter, (hreaching .reader none).2.2.trans ⟨fun h => h.2.2, fun h => ?_⟩⟩
  exact ⟨rfl, hunreadable, h⟩

end SqlWeave
