import SqlWeave.Proofs.Routing.Sending
import SqlWeave.Proofs.Routing.Steps

/-!
# Taking turns

A node is picked by turn where a connection is wanted without a name and none is pinned.  Each role
counts its own picks, and the count moves before it is known whether the node can be reached.

* `Step.takesTurn` — **the steps that pick a node by turn**, told by the operation and the router
  before it.
* `Step.turn_after` — such a step moves the count of its role by one, and no other step moves it.
* `Linked.turn_before` — so along a run the count is the number of those steps.
-/

namespace SqlWeave

variable {σ α : Type} {d : Driver σ} {r r₁ r' : Router σ} {role : Role} {o : Operation}

namespace Router

/-! ## Counts -/

/-- Whether a connection for a role and a name is to a node that is picked by turn. -/
def rotates (r : Router σ) (role : Role) (name : Option String) : Bool :=
  !r.inTransaction && name.isNone && !(r.candidates role).isEmpty

/-- A turn is taken by one role at a time. -/
lemma turn_advance (r : Router σ) (role role' : Role) :
    (r.advance role).turn role' = r.turn role' + if role = role' then 1 else 0 := by
  cases role <;> cases role' <;> simp [advance, turn]

/-- Where there is a node of the role, the next one in turn is picked. -/
lemma pick_by_turn (h : (r.candidates role).isEmpty = false) :
    pick role none r = (.ok ((r.candidates role).getD
      ((r.turn role).toNat % (r.candidates role).length) 0), r.advance role) := by
  simp only [pick]
  rw [if_neg (by simp [h])]

/-- A pick by name, and one that fails, move no count. -/
lemma pick_otherwise {name : Option String}
    (h : (name.isNone && !(r.candidates role).isEmpty) = false) : (pick role name r).2 = r := by
  simp only [pick]
  split_ifs with hempty
  · rfl
  · cases name with
    | none => simp [hempty] at h
    | some name =>
      simp only []
      cases (r.candidates role).find? (r.hasKey name) <;> rfl

/-- What is done with the node that was picked moves no count. -/
lemma Reach.turn_eq {name : Option String} {x : Except RouteError Connection}
    (hpin : r.pinned = none) (h : Reach r role name (x, r₁)) :
    r₁.turn = (pick role name r).2.turn := by
  cases h with
  | pinned hc => rw [hpin] at hc; cases hc
  | unpicked _ hpick => rw [hpick]
  | failed _ hpick | alive _ hpick | opened _ hpick =>
    rw [hpick]
    rfl

/-- **A connection that is reached by turn moves the count of its role**, whether it is reached or
not. -/
lemma turn_connection (d : Driver σ) (role role' : Role) (name : Option String) (r : Router σ) :
    (connection d role name r).2.turn role'
      = r.turn role' + if r.rotates role name ∧ role = role' then 1 else 0 := by
  have hreach := reach_connection d role name r
  generalize connection d role name r = result at hreach ⊢
  obtain ⟨x, r₁⟩ := result
  cases hpin : r.pinned with
  | some c =>
    obtain ⟨-, rfl⟩ := hreach.of_pinned hpin
    simp [rotates, inTransaction, hpin]
  | none =>
    have hfree : r.inTransaction = false := by simp [inTransaction, hpin]
    simp only [hreach.turn_eq hpin, rotates, hfree, Bool.not_false, Bool.true_and]
    cases hturn : name.isNone && !(r.candidates role).isEmpty with
    | false => simp [pick_otherwise hturn]
    | true =>
      rw [Bool.and_eq_true, Option.isNone_iff_eq_none, Bool.not_eq_true'] at hturn
      obtain ⟨rfl, hsome⟩ := hturn
      rw [pick_by_turn hsome, turn_advance]
      simp

end Router

/-! ## One step -/

/-- **Whether a step picks a node of a role by turn**: no transaction is open, nothing refuses the
operation, it wants any connection of the role, and there is a node of the role. -/
def Step.takesTurn (role : Role) (m : Step σ) : Bool :=
  (m.operation.prepared m.before).isOk && m.operation.wanted? = some (role, none)
    && m.before.rotates role none

namespace Operation

/-- What is done on a connection moves no count. -/
lemma turn_proceed (d : Driver σ) (c : Connection) {p : Option (StatementKind × Statement)}
    (hp : o.prepared r = .ok p) (r₁ : Router σ) : (o.proceed d c p r₁).2.turn = r₁.turn := by
  obtain ⟨world, calls, notes, pin, -, hafter⟩ := proceed_frame d c hp r₁
  rw [hafter]
  rfl

/-- An operation that wants no connection moves no count. -/
lemma turn_of_unwanted (d : Driver σ) (h : o.wanted? = none) (r : Router σ) :
    (o.run d r).2.turn = r.turn := by
  have hcourse := o.course d r
  generalize o.run d r = result at hcourse ⊢
  cases hcourse with
  | misplaced | refused | ended | disconnected => rfl
  | unreached hwanted | handed _ hwanted | sent _ hwanted =>
    rw [h] at hwanted
    cases hwanted
  | begun hkind | unbegun hkind =>
    subst hkind
    cases h

end Operation

/-- **One step.**  A turn that is taken is counted, and nothing else is. -/
lemma Step.turn_after (d : Driver σ) (o : Operation) (r : Router σ) (role : Role) :
    (o.step d r).after.turn role
      = r.turn role + if (o.step d r).takesTurn role then 1 else 0 := by
  have htakes : (o.step d r).takesTurn role
      = ((o.prepared r).isOk && o.wanted? = some (role, none) && r.rotates role none) := rfl
  have hafter : (o.step d r).after = (o.run d r).2 := rfl
  rw [htakes, hafter]
  cases hp : o.prepared r with
  | error e => simp [Operation.run_of_refused d hp, Except.isOk, Except.toBool]
  | ok p =>
    cases hwanted : o.wanted? with
    | none => simp [Operation.turn_of_unwanted d hwanted]
    | some wanted =>
      obtain ⟨role', name⟩ := wanted
      -- What is done on the connection takes no turn, so the count is that after reaching it.
      have hreached : (o.run d r).2.turn role
          = (Router.connection d role' name r).2.turn role := by
        rw [Operation.run_of_prepared d hp hwanted, Action.bind_apply]
        rcases Router.connection d role' name r with ⟨outcome, r₁⟩
        cases outcome with
        | ok c => exact congrFun (Operation.turn_proceed d c hp r₁) role
        | error e => rfl
      rw [hreached, Router.turn_connection]
      refine congrArg (r.turn role + ·) (if_congr ?_ rfl rfl)
      cases name with
      | some name => simp [Router.rotates]
      | none =>
        by_cases hrole : role' = role
        · simp [hrole, Except.isOk, Except.toBool]
        · simp [hrole]

/-! ## A run -/

lemma Lull.turn_eq (h : Lull r r') : r'.turn = r.turn := by
  obtain ⟨_, _, rfl, -⟩ := h
  rfl

/-- **The count along a run.**  Before the `k`-th step that takes a turn, `k` turns were taken. -/
lemma Linked.turn_before {steps : List (Step σ)} (h : Linked d r steps r') (role : Role) {k : Nat}
    {m : Step σ} (hm : (steps.filter (Step.takesTurn role))[k]? = some m) :
    m.before.turn role = r.turn role + UInt64.ofNat k := by
  induction h generalizing k with
  | nil => simp at hm
  | @cons r r₁ _ o steps hlull _ ih =>
    have hfirst : r₁.turn role = r.turn role := congrFun hlull.turn_eq role
    have hafter : (o.run d r₁).2.turn role = _ := Step.turn_after d o r₁ role
    rw [List.filter_cons] at hm
    split_ifs at hm with htakes
    · rw [if_pos htakes, hfirst] at hafter
      cases k with
      | zero =>
        obtain rfl := Option.some.inj hm
        simpa [Operation.step] using hfirst
      | succ k =>
        rw [ih hm, hafter, UInt64.ofNat_add, UInt64.add_assoc, UInt64.add_comm 1]
        rfl
    · rw [if_neg htakes, hfirst] at hafter
      rw [ih hm, hafter]
      simp

end SqlWeave
