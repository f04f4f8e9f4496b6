import Mathlib.Data.List.Rotate
import SqlWeave.Proofs.ReadWriteSplit
import SqlWeave.Proofs.Routing.Turns
import SqlWeave.Router.Scripted

/-!
# Nodes take their turns

Where any connection of a role will do, the nodes of the role take turns in the order in which they
are registered.  A turn is taken before the node is tried, so one that cannot be reached has had its
turn, and nothing that happens between two turns has a part in the order.

* `Step.Tries` — **the specification**: what a step asks of the driver is asked of one node.
* `Operation.tries_turn` — a step that takes a turn tries the node whose turn it is.
* `nodes_take_turns` — the statement for every session: the `k`-th turn of a role is that of the
  node at `k`, counted around, and as many turns in a row as there are nodes are one of each.
-/

namespace SqlWeave

variable {σ α : Type} {d : Driver σ} {t : Topology} {r r₁ r' : Router σ} {role : Role}
  {o : Operation} {i : Nat}

/-! ## Positions -/

/-- The positions of the nodes of a role are in the order of registration. -/
lemma pairwise_positions (takes : Registration → Bool) (nodes : List Registration) :
    (positions takes nodes).Pairwise (· < ·) := by
  have hall : (nodes.zipIdx.map (·.2)).Pairwise (· < ·) := by
    rw [List.zipIdx_map_snd]
    exact List.pairwise_lt_range'
  exact hall.sublist (List.filter_sublist.map _)

/-- The candidates of a role are fixed by the topology. -/
lemma Sound.candidates_eq (h : Sound t r) (role : Role) :
    r.candidates role = positions role.takes t.registrations := by
  cases role with
  | writer => exact h.writers
  | reader => exact h.readers

/-! ## Trying a node -/

/-- The position of the node that a call is about. -/
def Event.node : Event → Nat
  | .connect i _ _ => i
  | .ping c _ | .begin c _ | .commit c _ | .rollback c _ | .execute c _ _ | .query c _ _
  | .lastInsertId c _ _ => c.node

/-- A command is about the node of its connection. -/
lemma Event.node_of_commanded {e : Event} {c : Connection} (h : e.commanded = some c) :
    e.node = c.node := by
  cases e with
  | connect | ping => cases h
  | _ =>
    obtain rfl := Option.some.inj h
    rfl

/-- Whether calls were made on the way from one router to another, all of them about the node at a
position. -/
def Router.Tries (i : Nat) (r r' : Router σ) : Prop :=
  ∃ calls, calls ≠ [] ∧ r'.events = r.events ++ calls ∧ ∀ e ∈ calls, e.node = i

/-- **What a step asks of the driver is asked of the node at a position**, and something is. -/
def Step.Tries (m : Step σ) (i : Nat) : Prop :=
  m.before.Tries i m.after

namespace Router

namespace Tries

lemma of_call {e : Event} (he : e.node = i) (hevents : r'.events = r.events ++ [e]) :
    r.Tries i r' :=
  ⟨[e], List.cons_ne_nil e [], hevents, by simpa using he⟩

lemma before {calls : List Event} (h : r.Tries i r₁) (hevents : r'.events = r₁.events ++ calls)
    (hcalls : ∀ e ∈ calls, e.node = i) : r.Tries i r' := by
  obtain ⟨first, hne, hfirst, hnode⟩ := h
  refine ⟨first ++ calls, by simp [hne], by rw [hevents, hfirst, List.append_assoc], fun e he => ?_⟩
  exact (List.mem_append.mp he).elim (hnode e) (hcalls e)

/-- Tries of one node may be put together. -/
lemma trans (h : r.Tries i r₁) (h' : r₁.Tries i r') : r.Tries i r' := by
  obtain ⟨calls, -, hevents, hcalls⟩ := h'
  exact h.before hevents hcalls

end Tries

/-- Every attempt to connect is about the node that is to be reached. -/
lemma tries_openConnection (d : Driver σ) (i : Nat) (n : Registration) (left made : Nat)
    (r : Router σ) : r.Tries i (openConnection d i n left made r).2 := by
  -- On the attempts that are left.
  induction left generalizing made r with
  | zero =>
    simp only [openConnection, knock_eq]
    rcases d.connect n.config r.world with ⟨outcome, world⟩
    cases outcome <;> exact .of_call (e := .connect i n.config.dsn _) rfl rfl
  | succ left ih =>
    simp only [openConnection, knock_eq]
    rcases d.connect n.config r.world with ⟨outcome, world⟩
    cases outcome with
    | ok x => exact .of_call (e := .connect i n.config.dsn _) rfl rfl
    | error e => exact .trans (.of_call (e := .connect i n.config.dsn _) rfl rfl) (ih (made + 1) _)

/-- Keeping the connection is no call. -/
lemma tries_reopen (d : Driver σ) (i : Nat) (n : Registration) (r : Router σ) :
    r.Tries i (reopen d i n r).2 := by
  have hopen := tries_openConnection d i n n.config.retries 0 r
  simp only [reopen]
  generalize openConnection d i n n.config.retries 0 r = result at hopen ⊢
  obtain ⟨outcome, r₁⟩ := result
  cases outcome <;> exact hopen

/-- A connection that is kept is asked first. -/
lemma tries_connect (d : Driver σ) {n : Node} (hnode : r.nodes[i]? = some n)
    (hkept : ∀ c, n.connection = some c → c.node = i) : r.Tries i (connect d i r).2 := by
  cases hc : n.connection with
  | none =>
    simp only [connect, hnode, hc]
    exact tries_reopen d i n.registration r
  | some c =>
    rw [connect_of_kept d hnode hc]
    have hasked : ∀ {r₁ : Router σ}, r₁.events = r.events ++ [.ping c (d.ping c r.world).1] →
        r.Tries i r₁ := fun hevents => .of_call (e := .ping c _) (hkept c hc) hevents
    split_ifs
    · exact hasked rfl
    · exact .trans (hasked rfl) (tries_reopen d i n.registration _)

/-- The connection that is reached is to the node that was picked. -/
lemma Reach.node_eq {name : Option String} {c : Connection} {picked : Router σ} (h : Sound t r)
    (hpin : r.pinned = none) (hpick : pick role name r = (.ok i, picked))
    (hreach : Reach r role name (.ok c, r₁)) : c.node = i := by
  cases hreach with
  | pinned hc => rw [hpin] at hc; cases hc
  | alive _ hpick' hnode hkept =>
    obtain rfl := Except.ok.inj (Prod.mk.inj (hpick.symm.trans hpick')).1
    exact (h.kept ⟨_, hnode, hkept⟩).1
  | opened _ hpick' =>
    exact (Except.ok.inj (Prod.mk.inj (hpick.symm.trans hpick')).1).symm

/-- **By turn, the node is tried whose turn it is**, and only that. -/
lemma tries_connection (d : Driver σ) (h : Sound t r) (hturn : r.rotates role none = true) :
    ∃ i, (r.candidates role)[(r.turn role).toNat % (r.candidates role).length]? = some i ∧
      r.Tries i (connection d role none r).2 ∧
      ∀ c r₁, Reach r role none (.ok c, r₁) → c.node = i := by
  have hpin : r.pinned = none := by
    simpa [rotates, inTransaction] using (Bool.and_eq_true_iff.mp hturn).1
  have hsome : (r.candidates role).isEmpty = false := by
    simpa using (Bool.and_eq_true_iff.mp hturn).2
  have hpick := pick_by_turn hsome
  have hlt : (r.turn role).toNat % (r.candidates role).length < (r.candidates role).length :=
    Nat.mod_lt _ (List.length_pos_iff.mpr fun hnil => by simp [hnil] at hsome)
  have hget := List.getElem?_eq_getElem hlt
  rw [List.getD_eq_getElem?_getD, hget, Option.getD_some] at hpick
  generalize (r.candidates role)[(r.turn role).toNat % (r.candidates role).length] = i at hpick hget
  refine ⟨i, hget, ?_, fun c r₁ hreach => hreach.node_eq h hpin hpick⟩
  obtain ⟨n, hn, -⟩ := h.takes_of_candidate (mem_of_pick hpick)
  rw [← h.registered, List.getElem?_map, Option.map_eq_some_iff] at hn
  obtain ⟨n, hnode, -⟩ := hn
  have hkept : ∀ c, n.connection = some c → c.node = i := fun c hc => (h.kept ⟨n, hnode, hc⟩).1
  simp only [connection, hpin, Action.bind, hpick]
  cases role <;> exact tries_connect (r := r.advance _) d hnode hkept

end Router

/-! ## One step -/

namespace Operation

/-- **A step that takes a turn tries the node whose turn it is.** -/
theorem tries_turn (d : Driver σ) (h : Sound t r) (hturn : (o.step d r).takesTurn role = true) :
    ∃ i, (positions role.takes t.registrations)[(r.turn role).toNat
        % (positions role.takes t.registrations).length]? = some i ∧ (o.step d r).Tries i := by
  simp only [Step.takesTurn, Bool.and_eq_true, decide_eq_true_eq] at hturn
  obtain ⟨⟨hprepared, hwanted⟩, hrotates⟩ := hturn
  obtain ⟨i, hi, htries, hnode⟩ := Router.tries_connection d h hrotates
  rw [h.candidates_eq] at hi
  refine ⟨i, hi, ?_⟩
  obtain ⟨p, hp⟩ : ∃ p, o.prepared r = .ok p := by
    cases hp : o.prepared r with
    | ok p => exact ⟨p, rfl⟩
    | error e => simp [step, hp, Except.isOk, Except.toBool] at hprepared
  have hreach := Router.reach_connection d role none r
  show r.Tries i (o.run d r).2
  rw [run_of_prepared d hp hwanted, Action.bind_apply]
  generalize Router.connection d role none r = result at hreach htries ⊢
  obtain ⟨outcome, r₁⟩ := result
  cases outcome with
  | error e => exact htries
  | ok c =>
    obtain ⟨world, calls, notes, pin, hcalls, hafter⟩ := proceed_frame d c hp r₁
    refine htries.before (congrArg Router.events hafter) fun e he => ?_
    rw [Event.node_of_commanded (hcalls e he), hnode c r₁ hreach]

end Operation

/-! ## The statement -/

/-- The steps of a list that take a turn of a role, one after another. -/
def turnsOf (role : Role) (steps : List (Step σ)) : List (Step σ) :=
  steps.filter (Step.takesTurn role)

/-- Before its first operation a router has counted no turns. -/
lemma Router.turn_of_ofTopology {world : σ} (h : Router.ofTopology t world = .ok r) (role : Role) :
    r.turn role = 0 := by
  rw [Router.ofTopology, Topology.validate_of_ofTopology h] at h
  obtain rfl := Except.ok.inj h
  cases role <;> rfl

/-- The `k`-th turn, while the count has not run over. -/
lemma Session.tries_turn {world : σ} (h : Router.ofTopology t world = .ok r) (d : Driver σ)
    (s : Session σ α) (role : Role) {k : Nat} {m : Step σ}
    (hm : (turnsOf role (s.steps d r))[k]? = some m) (hk : k < UInt64.size) :
    ∃ i, (positions role.takes t.registrations)[k
        % (positions role.takes t.registrations).length]? = some i ∧ m.Tries i := by
  have hlinked := s.linked d r
  have hcount : (m.before.turn role).toNat = k := by
    rw [hlinked.turn_before role hm, Router.turn_of_ofTopology h, UInt64.zero_add,
      UInt64.toNat_ofNat_of_lt' hk]
  obtain ⟨hmem, hturn⟩ := List.mem_filter.mp (List.mem_of_getElem? hm)
  have hsound := ((Session.sound h d s).1 m hmem).1
  have hstep := hlinked.eq_step hmem
  rw [hstep] at hturn
  obtain ⟨i, hi, htries⟩ := Operation.tries_turn d hsound hturn
  rw [hcount] at hi
  rw [hstep]
  exact ⟨i, hi, htries⟩

/-- **The nodes of a role take turns**, in every session, whatever the driver does.  The steps that
take a turn of a role, whether the node is reached or not, are those of the nodes in the order of
registration, around and around, as long as the count does not run over.  So of as many of them in a
row as there are nodes each node has one. -/
theorem nodes_take_turns {world : σ} (h : Router.ofTopology t world = .ok r) (d : Driver σ)
    (s : Session σ α) (role : Role) :
    let nodes := positions role.takes t.registrations
    let turns := turnsOf role (s.steps d r)
    nodes.Pairwise (· < ·) ∧
    (∀ k m, turns[k]? = some m → k < UInt64.size →
      ∃ i, nodes[k % nodes.length]? = some i ∧ m.Tries i) ∧
    ∀ k, k + nodes.length ≤ turns.length → k + nodes.length ≤ UInt64.size →
      ∃ tried, List.Forall₂ Step.Tries ((turns.drop k).take nodes.length) tried ∧
        tried.Perm nodes := by
  intro nodes turns
  have hturn : ∀ k m, turns[k]? = some m → k < UInt64.size →
      ∃ i, nodes[k % nodes.length]? = some i ∧ m.Tries i :=
    fun k m hm hk => Session.tries_turn h d s role hm hk
  refine ⟨pairwise_positions role.takes t.registrations, hturn, fun k hlength hcount => ?_⟩
  refine ⟨nodes.rotate k, List.forall₂_iff_get.mpr ⟨?_, fun j hj hj' => ?_⟩,
    List.rotate_perm nodes k⟩
  · rw [List.length_take, List.length_drop, List.length_rotate]
    omega
  · have hlt : j < nodes.length := by rwa [List.length_rotate] at hj'
    have hm : turns[k + j]? = some (((turns.drop k).take nodes.length).get ⟨j, hj⟩) := by
      rw [List.get_eq_getElem, List.getElem_take, List.getElem_drop]
      exact List.getElem?_eq_getElem (by omega)
    obtain ⟨i, hi, htries⟩ := hturn (k + j) _ hm (by omega)
    have hrotated : (nodes.rotate k).get ⟨j, hj'⟩ = i := by
      rw [List.get_eq_getElem, List.getElem_rotate]
      rw [Nat.add_comm k j, List.getElem?_eq_getElem (Nat.mod_lt _ (by omega))] at hi
      exact Option.some.inj hi
    rw [hrotated]
    exact htries

/-- Three nodes that do everything, of which the second is never reached.  Neither a name, known or
not, nor a transaction, nor a reader, nor the loss of all connections has a part in the turns of the
writers. -/
theorem nodes_take_turns_one_unreachable :
    let node (dsn : String) : NodeConfig := { NodeConfig.empty with dsn := dsn }
    let t : Topology := { Topology.empty with
      mode := .cluster
      nodes := ⟨[("a", node "mysql:a"), ("b", node "mysql:b"), ("c", node "mysql:c")],
        by decide +kernel⟩ }
    let d := Script.driver Unit
    let s : Session (Script × Unit) Unit :=
      .call (.executeRaw "x" []) fun _ => .call (.writer (some "c")) fun _ =>
        .call (.writer none) fun _ => .call (.writer (some "nobody")) fun _ =>
          .transaction (.call (.executeRaw "y" []) fun _ => .call (.writer none) fun _ =>
            .finish (.ok ())) fun _ =>
              .call (.selectRaw "q" []) fun _ => .call .disconnect fun _ =>
                .call (.executeRaw "z" []) fun _ => .call .begin fun _ => .finish (.ok ())
    ∃ r, Router.ofTopology t (Script.smooth.setRefusals "mysql:b" 9, ()) = .ok r ∧
      (turnsOf .writer (s.steps d r)).map (fun m => m.answer.isOk)
        = [true, false, true, true, false] ∧
      ∀ (k : Nat) m, (turnsOf .writer (s.steps d r))[k]? = some m → m.Tries (k % 3) := by
  intro node t d s
  obtain ⟨r, hr, hanswers⟩ : ∃ r,
      Router.ofTopology t (Script.smooth.setRefusals "mysql:b" 9, ()) = .ok r ∧
        (turnsOf .writer (s.steps d r)).map (fun m => m.answer.isOk)
          = [true, false, true, true, false] :=
    ⟨_, rfl, by decide +kernel⟩
  refine ⟨r, hr, hanswers, fun k m hm => ?_⟩
  have hlength : (turnsOf .writer (s.steps d r)).length = 5 := by
    rw [← List.length_map, hanswers]
    rfl
  have hk : k < 5 := hlength ▸ (List.getElem?_eq_some_iff.mp hm).1
  obtain ⟨i, hi, htries⟩ :=
    (nodes_take_turns hr d s .writer).2.1 k m hm (hk.trans (by decide))
  have hnodes : positions Role.writer.takes t.registrations = List.range 3 := by decide +kernel
  rw [hnodes, List.length_range, List.getElem?_range (Nat.mod_lt k (by decide))] at hi
  rw [Option.some.inj hi]
  exact htries

end SqlWeave
