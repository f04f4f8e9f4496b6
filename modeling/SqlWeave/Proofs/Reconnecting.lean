import SqlWeave.Proofs.Routing.Attempts
import SqlWeave.Proofs.Routing.Sending
import SqlWeave.Router.Scripted

/-!
# Reaching the node that was picked

Outside of a transaction a node is reached by the connection that is kept for it, if that answers.
Else the driver is asked for a new one, again and again while the node allows it, and the last
attempt decides: its connection takes the place of the old one and is kept from then on, or its
failure is reported and nothing has changed.

* `Step.Loses` — the steps at which a connection is given up.
* `Session.keeps` — until then it is the one that is kept for its node.
* `selected_node_is_reached` — the statement.
-/

namespace SqlWeave

variable {σ α : Type} {d : Driver σ} {r : Router σ} {o : Operation} {i : ℕ} {c : Connection}

/-! ## From then on -/

/-- Whether a connection is given up at a step: because all are, or because it was asked and does
not answer. -/
def Step.Loses (m : Step σ) (c : Connection) : Prop :=
  m.operation = .disconnect ∨ .ping c false ∈ m.after.events.drop m.before.events.length

namespace Operation

/-- An operation that wants no connection keeps all of them, unless it gives up all of them. -/
lemma nodes_of_unwanted (d : Driver σ) (h : o.wanted? = none) (hkind : o ≠ .disconnect)
    (r : Router σ) : (o.run d r).2.nodes = r.nodes := by
  have hcourse := o.course d r
  generalize o.run d r = result at hcourse ⊢
  cases hcourse with
  | misplaced | refused | ended => rfl
  | disconnected hdisconnect => exact absurd hdisconnect hkind
  | unreached hwanted | handed _ hwanted | sent _ hwanted =>
    rw [h] at hwanted
    cases hwanted
  | begun hbegin | unbegun hbegin =>
    subst hbegin
    cases h

/-- **One step.**  A connection that is not lost is kept. -/
lemma keeps_step (d : Driver σ) (h : r.Keeps i c) (hlost : ¬(o.step d r).Loses c) :
    (o.run d r).2.Keeps i c := by
  obtain ⟨hkind, hasked⟩ := not_or.mp hlost
  have hcalls : ∀ calls, (o.run d r).2.events = r.events ++ calls → .ping c false ∉ calls := by
    intro calls hevents hmem
    refine hasked ?_
    show _ ∈ (o.run d r).2.events.drop r.events.length
    rwa [hevents, List.drop_left]
  -- It can be lost only while the connection of the operation is reached for.
  cases hp : o.prepared r with
  | error e =>
    rw [run_of_refused d hp]
    exact h
  | ok p =>
    cases hwanted : o.wanted? with
    | none =>
      obtain ⟨m, hm, hc⟩ := h
      exact ⟨m, by rw [nodes_of_unwanted d hwanted hkind, hm], hc⟩
    | some wanted =>
      obtain ⟨role, name⟩ := wanted
      have hkeeps := Router.keeps_connection d role name h
      rw [run_of_prepared d hp hwanted, Action.bind_apply] at hcalls ⊢
      generalize Router.connection d role name r = result at hkeeps hcalls ⊢
      obtain ⟨outcome, r₁⟩ := result
      cases outcome with
      | error e =>
        exact hkeeps.resolve_right fun ⟨calls, hevents, hmem⟩ => hcalls calls hevents hmem
      | ok c' =>
        obtain ⟨world, sent, notes, pin, -, hafter⟩ := proceed_frame d c' hp r₁
        simp only [hafter] at hcalls ⊢
        refine hkeeps.resolve_right fun ⟨calls, hevents, hmem⟩ => ?_
        refine hcalls (calls ++ sent) ?_ (List.mem_append_left sent hmem)
        rw [← List.append_assoc, ← hevents]

end Operation

/-- **A connection that is kept for a node stays the one**, in every session, until it is lost. -/
theorem Session.keeps (d : Driver σ) (s : Session σ α) (h : r.Keeps i c)
    (hlost : ∀ m ∈ s.steps d r, ¬m.Loses c) :
    ∀ m ∈ s.steps d r, m.before.Keeps i c ∧ m.after.Keeps i c := by
  have hlinked := s.linked d r
  refine (hlinked.invariant (P := fun r => r.Keeps i c) (fun hlull hkeeps => ?_)
    (fun m hm hkeeps => ?_) h).1
  · obtain ⟨_, _, rfl, -⟩ := hlull
    exact hkeeps
  · have hstep := hlinked.eq_step hm
    have hnotLost := hlost m hm
    rw [hstep] at hnotLost ⊢
    exact Operation.keeps_step d hkeeps hnotLost

/-! ## The statement -/

lemma Router.connection_of_picked {picked : Router σ} {role : Role} {name : Option String}
    (d : Driver σ) (hfree : r.inTransaction = false)
    (hpick : Router.pick role name r = (.ok i, picked)) :
    Router.connection d role name r = Router.connect d i picked := by
  have hpin : r.pinned = none := by simpa [Router.inTransaction] using hfree
  simp only [Router.connection, hpin, Action.bind, hpick]

/-- **The node that was picked is reached**, whatever is kept for it and whatever the driver does.
A kept connection that answers is returned, and no new one is asked for.  Else the driver is asked
until it succeeds or has been asked once more than the node allows retries, and no more often; the
last attempt decides.  If it succeeds, the new connection is returned, and it is the one that is
kept for the node until it is lost.  If it fails, its message is reported for the node, and all that
is kept is as before.  No transaction is open before or after. -/
theorem selected_node_is_reached (d : Driver σ) {r picked : Router σ} {role : Role}
    {name : Option String} {i : ℕ} {m : Node} (hfree : r.inTransaction = false)
    (hpick : Router.pick role name r = (.ok i, picked)) (hnode : r.nodes[i]? = some m) :
    let n := m.registration
    let result := Router.connection d role name r
    n.config.retries = (if n.config.retry.toNat ≤ 5 then n.config.retry.toNat else 0) ∧
    result.2.pinned = r.pinned ∧
    (∀ c world, m.connection = some c → d.ping c r.world = (true, world) →
      result = (.ok c, { picked with world := world, events := r.events ++ [.ping c true] })) ∧
    ∀ world asked, Router.Unanswered d r m world asked →
      ∃ k, d.LastAttempt n.config world n.config.retries k ∧
        let last := d.attempt n.config world k
        let c := r.nextConnection i n
        result.2.world = last.2 ∧
        result.2.events = r.events ++ asked ++ Router.knocks i n k last.1.isOk ∧
        (∀ x, last.1 = .ok x → result.1 = .ok c ∧
          result.2.nodes = r.nodes.modify i (fun m => { m with connection := some c }) ∧
          ∀ (α : Type) (later : Session σ α), (∀ s ∈ later.steps d result.2, ¬s.Loses c) →
            ∀ s ∈ later.steps d result.2, s.before.Keeps i c ∧ s.after.Keeps i c) ∧
        ∀ e, last.1 = .error e →
          result.1 = .error (.connect n.name e.message) ∧ result.2.nodes = r.nodes := by
  intro n result
  have hresult : result = Router.connect d i picked := Router.connection_of_picked d hfree hpick
  -- Picking a node has counted a turn at most.
  obtain ⟨writerTurn, readerTurn, rfl⟩ : ∃ writerTurn readerTurn,
      picked = { r with writerTurn := writerTurn, readerTurn := readerTurn } := by
    rcases Router.pick_cases r role name with ⟨e, hpick'⟩ | ⟨j, -, w, t, hpick'⟩
    · rw [hpick] at hpick'
      cases hpick'
    · exact ⟨w, t, (Prod.mk.inj (hpick.symm.trans hpick')).2⟩
  refine ⟨?_, (Router.reach_connection d role name r).pinned_eq, ?_, ?_⟩
  · rfl
  · intro c world hkept hping
    exact hresult.trans (Router.connect_of_answered hnode hkept hping)
  · intro world asked hvain
    obtain ⟨k, hlast⟩ := d.exists_lastAttempt n.config world n.config.retries
    let picked : Router σ := { r with writerTurn := writerTurn, readerTurn := readerTurn }
    have hvain' : Router.Unanswered d picked m world asked := by
      cases hvain with
      | unopened hnone => exact .unopened hnone
      | lost hkept hping => exact .lost hkept hping
    obtain ⟨notes, hconnect⟩ :=
      Router.connect_of_unanswered (r := picked) hnode hvain' hlast
    have hfinal := hresult.trans hconnect
    refine ⟨k, hlast, congrArg (fun x => x.2.world) hfinal, congrArg (fun x => x.2.events) hfinal,
      fun x hx => ?_, fun e he => ?_⟩
    · have hanswer : result.1 = .ok (r.nextConnection i n) := by
        rw [congrArg Prod.fst hfinal, hx]
        rfl
      have hnodes : result.2.nodes = r.nodes.modify i
          (fun m => { m with connection := some (r.nextConnection i n) }) := by
        rw [congrArg (fun x => x.2.nodes) hfinal, hx]
        rfl
      have hkept : result.2.Keeps i (r.nextConnection i n) := by
        refine ⟨{ m with connection := some (r.nextConnection i n) }, ?_, rfl⟩
        rw [hnodes, List.getElem?_modify, hnode, Option.map_eq_map, Option.map_some, if_pos rfl]
      exact ⟨hanswer, hnodes, fun _ later hlost => later.keeps d hkept hlost⟩
    · refine ⟨?_, ?_⟩
      · rw [congrArg Prod.fst hfinal, he]
        rfl
      · rw [congrArg (fun x => x.2.nodes) hfinal, he]
        rfl

/-- The connection that is kept for a node is dead, and the node refuses two of the four attempts
that it allows: the third one reaches it. -/
theorem selected_node_is_reached_third_attempt :
    let d := Script.driver Unit
    let n : NodeConfig := { NodeConfig.empty with dsn := "mysql:r", retry := 3 }
    ∃ r₀, Router.ofTopology { Topology.pair with slaves := .ofList [("r", n)] } (Script.smooth, ())
        = .ok r₀ ∧
      let r := ((Operation.reader none).run d r₀).2.inWorld fun w =>
        ((w.1.setDead n.dsn true).setRefusals n.dsn 2, ())
      r.inTransaction = false ∧ (∃ picked, Router.pick .reader none r = (.ok 1, picked)) ∧
        ∃ m, r.nodes[1]? = some m ∧ ∃ c, m.connection = some c ∧
          let result := Router.connection d .reader none r
          result.1 = .ok (r.nextConnection 1 m.registration) ∧
          result.2.events = r.events ++ [.ping c false, .connect 1 n.dsn false,
            .connect 1 n.dsn false, .connect 1 n.dsn true] := by
  intro d n
  refine ⟨_, rfl, ?_⟩
  intro r
  have hfree : r.inTransaction = false := rfl
  have hpick : Router.pick .reader none r = (.ok 1, r.advance .reader) := by
    have hcandidates : r.candidates .reader = [1] := by decide +kernel
    simp [Router.pick, hcandidates, Nat.mod_one]
  obtain ⟨m, hnode, hconfig, c, hkept, hping⟩ : ∃ m, r.nodes[1]? = some m ∧
      m.registration.config = n ∧
      ∃ c, m.connection = some c ∧ d.ping c r.world = (false, r.world) :=
    ⟨_, rfl, rfl, _, rfl, rfl⟩
  refine ⟨hfree, ⟨_, hpick⟩, m, hnode, c, hkept, ?_⟩
  obtain ⟨-, -, -, hreached⟩ := selected_node_is_reached d hfree hpick hnode
  obtain ⟨k, hlast, -, hevents, hok, -⟩ := hreached _ _ (.lost hkept hping)
  rw [hconfig] at hlast
  have hrefused : ∀ j < 2, (d.attempt n r.world j).1.isOk = false := by decide +kernel
  have hthird : (d.attempt n r.world 2).1 = .ok () := by decide +kernel
  have hisOk : (d.attempt n r.world 2).1.isOk = true := by rw [hthird]; rfl
  obtain rfl : k = 2 := by
    refine le_antisymm (hlast.2 (.inl hisOk)) (Nat.le_of_not_lt fun hk => ?_)
    rcases hlast.1 with hsucceeds | hnone
    · rw [hrefused k hk] at hsucceeds
      cases hsucceeds
    · subst hnone
      revert hk
      decide +kernel
  rw [hconfig] at hevents hok
  refine ⟨(hok () hthird).1, ?_⟩
  rw [hevents, hisOk, Router.knocks, hconfig, List.append_assoc]
  rfl

end SqlWeave
