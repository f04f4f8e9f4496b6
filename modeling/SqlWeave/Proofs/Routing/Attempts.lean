import Mathlib.Data.Nat.Find
import Mathlib.Order.Bounds.Basic
import SqlWeave.Proofs.Routing.Sound

/-!
# Attempts to connect

A driver that is asked for a connection again and again may give another answer each time, since
each attempt is made in the world that the one before has left.  A router asks until it is given a
connection or has no attempt left, and how that ends is decided by the last attempt alone.

* `Driver.attempt` — the answers, one after another.
* `Driver.LastAttempt` — **the attempt with which it ends**.
* `Router.openConnection_eq`, `Router.reopen_eq` — what is left of the attempts.
* `Router.Unanswered`, `Router.connect_of_unanswered` — they are made if no connection is kept that
  answers.
* `Router.keeps_connection` — a connection is kept for its node until it is asked in vain.
-/

namespace SqlWeave

variable {σ : Type}

/-! ## One attempt after another -/

namespace Driver

variable {d : Driver σ} {n : NodeConfig} {w : σ} {left k : ℕ}

/-- How the attempt to connect ends that is made after `k` others, and the world after it. -/
def attempt (d : Driver σ) (n : NodeConfig) (w : σ) : ℕ → Except RouteError Unit × σ
  | 0 => d.connect n w
  | k + 1 => d.connect n (attempt d n w k).2

/-- The attempts after the first one begin in the world that it has left. -/
lemma attempt_succ (d : Driver σ) (n : NodeConfig) (w : σ) (k : ℕ) :
    d.attempt n w (k + 1) = d.attempt n (d.connect n w).2 k := by
  induction k with
  | zero => rfl
  | succ k ih =>
      rw [attempt, ih]
      rfl

/-- **The last attempt**, told by how many are made before it: the first that succeeds, or else the
one with which none is left. -/
def LastAttempt (d : Driver σ) (n : NodeConfig) (w : σ) (left k : ℕ) : Prop :=
  IsLeast {k | (d.attempt n w k).1.isOk ∨ k = left} k

/-- There is one, as there is an end to the attempts. -/
lemma exists_lastAttempt (d : Driver σ) (n : NodeConfig) (w : σ) (left : ℕ) :
    ∃ k, d.LastAttempt n w left k := by
  classical
  have hsome : ∃ k, (d.attempt n w k).1.isOk ∨ k = left := ⟨left, .inr rfl⟩
  exact ⟨Nat.find hsome, Nat.find_spec hsome, fun _ => Nat.find_min' hsome⟩

namespace LastAttempt

lemma eq_zero_of_isOk (h : d.LastAttempt n w left k) (hok : (d.connect n w).1.isOk) : k = 0 :=
  Nat.le_zero.mp (h.2 (.inl hok))

/-- If none is left after it, the first attempt is the last. -/
lemma eq_zero_of_none_left (h : d.LastAttempt n w 0 k) : k = 0 :=
  Nat.le_zero.mp (h.2 (.inr rfl))

/-- After one that fails, the last attempt is that of the others. -/
lemma succ_of_error (h : d.LastAttempt n w (left + 1) k) (herror : (d.connect n w).1.isOk = false) :
    ∃ j, k = j + 1 ∧ d.LastAttempt n (d.connect n w).2 left j := by
  obtain ⟨hk, hleast⟩ := h
  rw [Set.mem_ofPred_eq] at hk
  cases k with
  | zero =>
      rcases hk with hok | hleft
      · exact absurd (hok.symm.trans herror) Bool.true_eq_false.mp
      · exact absurd hleft (Nat.zero_ne_add_one left)
  | succ j =>
      rw [attempt_succ] at hk
      refine ⟨j, rfl, hk.imp_right Nat.succ.inj, fun i hi => ?_⟩
      have hsucc : (d.attempt n w (i + 1)).1.isOk ∨ i + 1 = left + 1 := by
        rw [attempt_succ]
        exact Or.imp_right (congrArg Nat.succ) hi
      exact Nat.le_of_succ_le_succ (hleast hsucc)

end LastAttempt

end Driver

namespace Router

variable {d : Driver σ} {r : Router σ} {i j k left : ℕ} {n : Registration}

/-- What a router answers when the last attempt to reach a node has ended. -/
def reply (n : Registration) (c : Connection) :
    Except RouteError Unit → Except RouteError Connection
  | .ok _ => .ok c
  | .error e => .error (.connect n.name e.message)

/-- The calls of several attempts, all of which fail but for the last one. -/
def knocks (i : ℕ) (n : Registration) (k : ℕ) (ok : Bool) : List Event :=
  List.replicate k (.connect i n.config.dsn false) ++ [.connect i n.config.dsn ok]

/-- The calls of one more attempt that failed, in front of the others. -/
lemma knocks_succ (i : ℕ) (n : Registration) (k : ℕ) (ok : Bool) :
    knocks i n (k + 1) ok = .connect i n.config.dsn false :: knocks i n k ok := by
  rw [knocks, List.replicate_succ, List.cons_append, knocks]

/-- **What is left of opening a connection**: the attempts up to the last one were made, and that
decides. -/
theorem openConnection_eq (made : ℕ) (h : d.LastAttempt n.config r.world left k) :
    let last := d.attempt n.config r.world k
    ∃ notes, openConnection d i n left made r = (reply n (r.nextConnection i n) last.1, { r with
      world := last.2
      opened := r.opened + last.1.isOk.toNat
      events := r.events ++ knocks i n k last.1.isOk
      log := r.log ++ notes }) := by
  -- On the attempts that are left, as they are made.
  induction left generalizing made r k with
  | zero =>
      obtain rfl := h.eq_zero_of_none_left
      simp only [openConnection, knock_eq, Driver.attempt]
      rcases d.connect n.config r.world with ⟨outcome, world⟩
      cases outcome with
      | ok x => exact ⟨[.connected n.name made], rfl⟩
      | error e => exact ⟨[], by rw [List.append_nil]; rfl⟩
  | succ left ih =>
      cases hfirst : (d.connect n.config r.world).1 with
      | ok x =>
          have hok : (d.connect n.config r.world).1.isOk := by rw [hfirst]; rfl
          obtain rfl := h.eq_zero_of_isOk hok
          simp only [openConnection, knock_eq, Driver.attempt, hfirst]
          exact ⟨[.connected n.name made], rfl⟩
      | error e =>
          have herror : (d.connect n.config r.world).1.isOk = false := by rw [hfirst]; rfl
          obtain ⟨j, rfl, hj⟩ := h.succ_of_error herror
          rw [Driver.attempt_succ]
          simp only [openConnection, knock_eq, hfirst, knocks_succ]
          let r₁ : Router σ := { r with
            world := (d.connect n.config r.world).2
            events := r.events ++ [.connect i n.config.dsn false]
            log := r.log ++ [.retrying n.name (made + 1) n.config.retries e.message] }
          obtain ⟨notes, hopen⟩ := ih (r := r₁) (made + 1) hj
          refine ⟨.retrying n.name (made + 1) n.config.retries e.message :: notes, ?_⟩
          exact hopen.trans (by simp [r₁, nextConnection])

/-! ## Reaching the node -/

/-- The nodes after an attempt to connect to the one at a position: a connection that was opened is
kept for it. -/
def nodesAfter (r : Router σ) (i : ℕ) (n : Registration) (ok : Bool) : List Node :=
  if ok then r.nodes.modify i fun m => { m with connection := some (r.nextConnection i n) }
  else r.nodes

/-- **What is left of reopening**: the attempts decide whether the node has a connection
afterwards. -/
theorem reopen_eq (h : d.LastAttempt n.config r.world n.config.retries k) :
    let last := d.attempt n.config r.world k
    ∃ notes, reopen d i n r = (reply n (r.nextConnection i n) last.1, { r with
      nodes := r.nodesAfter i n last.1.isOk
      world := last.2
      opened := r.opened + last.1.isOk.toNat
      events := r.events ++ knocks i n k last.1.isOk
      log := r.log ++ notes }) := by
  obtain ⟨notes, hopen⟩ := openConnection_eq (i := i) 0 h
  refine ⟨notes, ?_⟩
  rw [reopen, hopen]
  rcases d.attempt n.config r.world k with ⟨outcome, world⟩
  cases outcome <;> rfl

/-- Whether no connection that is kept for a node answers, with the world after it was asked and the
calls for that: none is kept, or the one that is kept was asked in vain. -/
inductive Unanswered (d : Driver σ) (r : Router σ) (n : Node) : σ → List Event → Prop
  | unopened (h : n.connection = none) : Unanswered d r n r.world []
  | lost {c : Connection} {world : σ} (h : n.connection = some c)
      (hping : d.ping c r.world = (false, world)) : Unanswered d r n world [.ping c false]

/-- **Then attempts are made**, in the world after that. -/
theorem connect_of_unanswered {m : Node} {world : σ} {asked : List Event}
    (hnode : r.nodes[i]? = some m) (h : Unanswered d r m world asked)
    (hlast : d.LastAttempt m.registration.config world m.registration.config.retries k) :
    let last := d.attempt m.registration.config world k
    ∃ notes, connect d i r
      = (reply m.registration (r.nextConnection i m.registration) last.1, { r with
        nodes := r.nodesAfter i m.registration last.1.isOk
        world := last.2
        opened := r.opened + last.1.isOk.toNat
        events := r.events ++ asked ++ knocks i m.registration k last.1.isOk
        log := r.log ++ notes }) := by
  cases h with
  | unopened hnone =>
      obtain ⟨notes, hreopen⟩ := reopen_eq (i := i) hlast
      refine ⟨notes, ?_⟩
      rw [List.append_nil]
      simpa only [connect, hnode, hnone] using hreopen
  | @lost c world hkept hping =>
      let asked : Router σ := { r with
        world := world
        events := r.events ++ [.ping c false]
        log := r.log ++ [.lost m.registration.name] }
      obtain ⟨notes, hreopen⟩ := reopen_eq (i := i) (r := asked) hlast
      refine ⟨.lost m.registration.name :: notes, ?_⟩
      rw [connect_of_kept d hnode hkept, hping]
      exact hreopen.trans (by simp [asked, nextConnection, nodesAfter])

/-- A connection that answers is used. -/
lemma connect_of_answered {m : Node} {c : Connection} {world : σ} (hnode : r.nodes[i]? = some m)
    (hkept : m.connection = some c) (hping : d.ping c r.world = (true, world)) :
    connect d i r
      = (.ok c, { r with world := world, events := r.events ++ [.ping c true] }) := by
  rw [connect_of_kept d hnode hkept, hping]
  rfl

/-- Either what is kept answers or there is something to be attempted. -/
lemma exists_answered_or_unanswered (d : Driver σ) (r : Router σ) (m : Node) :
    (∃ c world, m.connection = some c ∧ d.ping c r.world = (true, world)) ∨
      ∃ world asked, Unanswered d r m world asked := by
  cases hkept : m.connection with
  | none => exact .inr ⟨r.world, [], .unopened hkept⟩
  | some c =>
      rcases hping : d.ping c r.world with ⟨alive, world⟩
      cases alive with
      | true => exact .inl ⟨c, world, rfl, hping⟩
      | false => exact .inr ⟨world, [.ping c false], .lost hkept hping⟩

/-! ## Keeping the connection -/

/-- A node keeps its connection while another one is attempted. -/
lemma keeps_nodesAfter {c : Connection} (h : r.Keeps i c) (hij : j ≠ i) (ok : Bool) :
    ∃ m, (r.nodesAfter j n ok)[i]? = some m ∧ m.connection = some c := by
  obtain ⟨m, hm, hc⟩ := h
  refine ⟨m, ?_, hc⟩
  rw [nodesAfter]
  split_ifs
  · rw [List.getElem?_modify, hm, Option.map_eq_map, Option.map_some, if_neg hij]
  · exact hm

/-- A connection is kept for its node unless it is asked and does not answer. -/
lemma keeps_connect (d : Driver σ) (j : ℕ) {c : Connection} (h : r.Keeps i c) :
    (connect d j r).2.Keeps i c ∨
      ∃ calls, (connect d j r).2.events = r.events ++ calls ∧ .ping c false ∈ calls := by
  cases hnode : r.nodes[j]? with
  | none =>
      left
      simpa only [connect, hnode] using h
  | some m =>
      rcases exists_answered_or_unanswered d r m with
        ⟨c', world, hkept, hping⟩ | ⟨world, asked, hvain⟩
      · left
        rw [connect_of_answered hnode hkept hping]
        exact h
      · obtain ⟨k, hlast⟩ := d.exists_lastAttempt m.registration.config world
          m.registration.config.retries
        obtain ⟨notes, hconnect⟩ := connect_of_unanswered hnode hvain hlast
        rw [hconnect]
        -- Only the node itself could lose it, and then after a ping in vain.
        by_cases hij : j = i
        · subst hij
          obtain ⟨m', hm', hc⟩ := h
          obtain rfl := Option.some.inj (hnode.symm.trans hm')
          refine .inr ⟨_, List.append_assoc .., List.mem_append_left _ ?_⟩
          cases hvain with
          | unopened hnone => rw [hc] at hnone; cases hnone
          | lost hkept =>
              obtain rfl := Option.some.inj (hc.symm.trans hkept)
              exact List.mem_singleton_self _
        · exact .inl (keeps_nodesAfter h hij _)

/-- So it is, whatever connection is reached for. -/
theorem keeps_connection (d : Driver σ) (role : Role) (name : Option String) {c : Connection}
    (h : r.Keeps i c) : (connection d role name r).2.Keeps i c ∨
      ∃ calls, (connection d role name r).2.events = r.events ++ calls ∧
        .ping c false ∈ calls := by
  cases hpin : r.pinned with
  | some _ =>
      left
      simpa only [connection, hpin] using h
  | none =>
      simp only [connection, hpin, Action.bind]
      rcases pick_cases r role name with ⟨e, hpick⟩ | ⟨j, -, writerTurn, readerTurn, hpick⟩
      · rw [hpick]
        exact .inl h
      · rw [hpick]
        exact keeps_connect d j
          (r := { r with writerTurn := writerTurn, readerTurn := readerTurn }) h

end Router

end SqlWeave
