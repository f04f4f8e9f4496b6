import SqlWeave.Proofs.Pinning

/-!
# A transaction brackets its body

Running a body inside a transaction begins, runs the body and ends the transaction by the outcome
of the body.  The body may do anything to the router, so it may also end the transaction or open
another one; whatever it does, no transaction is left open behind it.

* `Course.of_ending` — what the operation does that ends a transaction.
* `transaction_brackets_body` — the transaction of a body, for every body and every router.
-/

namespace SqlWeave

variable {σ α : Type} {d : Driver σ} {r r' : Router σ}

/-! ## Beginning and ending -/

/-- To begin is an operation. -/
lemma Router.course_begin (d : Driver σ) (r : Router σ) :
    Course r .begin ((Router.begin d r).1.map .connection, (Router.begin d r).2) := by
  have hcourse := Operation.course d .begin r
  simp only [Operation.run, Action.bind_pure_apply] at hcourse
  exact hcourse

/-- What becomes of the pin when a transaction is to begin. -/
lemma Course.of_begin {answer : Except RouteError Answer} (h : Course r .begin (answer, r')) :
    (∃ e, answer = .error e ∧ r'.pinned = r.pinned) ∨
      ∃ c, answer = .ok (.connection c) ∧ r.pinned = none ∧ r'.pinned = some c := by
  cases h with
  | misplaced => exact .inl ⟨_, rfl, rfl⟩
  | refused => exact .inl ⟨_, rfl, rfl⟩
  | unreached _ _ hreach => exact .inl ⟨_, rfl, hreach.pinned_eq⟩
  | begun _ hpin => exact .inr ⟨_, rfl, hpin, rfl⟩
  | unbegun _ _ hreach => exact .inl ⟨_, rfl, hreach.pinned_eq⟩
  | handed hkind | sent hkind | ended hkind | disconnected hkind => cases hkind

/-- What the operation does that ends a transaction: nothing if none is open, and else one call on
its connection, after which none is open. -/
lemma Course.of_ending {outcome : Except RouteError α}
    {result : Except RouteError Answer × Router σ}
    (h : Course r (Operation.ending outcome) result) :
    result.2.pinned = none ∧ ∀ c, r.pinned = some c →
      ∃ e, Ending c result.1.isOk (Operation.ending outcome) e ∧
        result.2.events = r.events ++ [e] := by
  have hends : (Operation.ending outcome = .commit ∨ Operation.ending outcome = .rollback) := by
    cases outcome <;> simp [Operation.ending]
  generalize Operation.ending outcome = o at h hends ⊢
  cases h with
  | misplaced hkind =>
    rcases hkind with ⟨rfl, -⟩ | ⟨-, hpin⟩
    · simp at hends
    · exact ⟨hpin, fun c hc => by rw [hpin] at hc; cases hc⟩
  | @ended c _ e _ _ _ hkind hpin hok =>
    refine ⟨rfl, fun c' hc' => ⟨e, ?_, rfl⟩⟩
    obtain rfl := Option.some.inj (hpin.symm.trans hc')
    rw [hok]
    exact hkind
  | refused hkind | unreached hkind | handed hkind | begun hkind | unbegun hkind | sent hkind
  | disconnected hkind => rcases hends with rfl | rfl <;> cases hkind

/-- After the end of a transaction none is open. -/
lemma Router.pinned_conclude (d : Driver σ) (outcome : Except RouteError α) (r : Router σ) :
    (Router.conclude d outcome r).2.pinned = none := by
  have hcourse := Operation.course d (Operation.ending outcome) r
  obtain ⟨world, notes, hlull, -⟩ := Lull.conclude d outcome r
  rw [hlull]
  exact hcourse.of_ending.1

/-- A failure of the body stays the outcome. -/
lemma Router.conclude_error (d : Driver σ) (e : RouteError) (r : Router σ) :
    (Router.conclude d (.error e : Except RouteError α) r).1 = .error e := by
  simp only [Router.conclude]
  rcases Router.rollback d r with ⟨ended, r'⟩
  cases ended <;> rfl

/-- An answer of the body stays the outcome if it is committed. -/
lemma Router.conclude_ok (d : Driver σ) (x : α) (r : Router σ) :
    Router.conclude d (.ok x) r = ((Router.commit d r).1.map fun _ => x, (Router.commit d r).2) :=
  Action.bind_pure_apply (Router.commit d) (fun _ => x) r

lemma Router.commit_of_conclude {outcome : Except RouteError α} {x : α}
    (h : (Router.conclude d outcome r).1 = .ok x) :
    outcome = .ok x ∧ Router.commit d r = (.ok (), (Router.conclude d outcome r).2) := by
  cases outcome with
  | error e =>
    rw [Router.conclude_error] at h
    cases h
  | ok y =>
    rw [Router.conclude_ok] at h ⊢
    generalize Router.commit d r = result at h ⊢
    obtain ⟨ended, r'⟩ := result
    cases ended with
    | error e => cases h
    | ok u =>
      have hyx : y = x := Except.ok.inj h
      exact ⟨by rw [hyx], rfl⟩

lemma Router.conclude_of_isOk {x : α} (h : (Operation.commit.run d r).1.isOk = true) :
    (Router.conclude d (.ok x) r).1 = .ok x := by
  have hrun : (Operation.commit.run d r).1 = (Router.commit d r).1.map fun _ => .done :=
    congrArg Prod.fst (Action.bind_pure_apply (Router.commit d) (fun _ => Answer.done) r)
  rw [hrun] at h
  rw [Router.conclude_ok]
  generalize Router.commit d r = result at h ⊢
  obtain ⟨ended, r'⟩ := result
  cases ended with
  | ok u => rfl
  | error e => cases h

/-! ## The transaction of a body -/

lemma Router.transaction_of_error {body : Action σ α} {e : RouteError}
    (hbegin : Router.begin d r = (.error e, r')) :
    Router.transaction d body r = (.error e, r') := by
  simp only [Router.transaction, hbegin]

lemma Router.transaction_of_ok {body : Action σ α} {c : Connection}
    (hbegin : Router.begin d r = (.ok c, r')) :
    Router.transaction d body r = Router.conclude d (body r').1 (body r').2 := by
  simp only [Router.transaction, hbegin]

lemma Router.inTransaction_transaction (d : Driver σ) (body : Action σ α) (r : Router σ) :
    (Router.transaction d body r).2.inTransaction = r.inTransaction := by
  have hcourse := Router.course_begin d r
  rcases hbegin : Router.begin d r with ⟨outcome, r₁⟩
  rw [hbegin] at hcourse
  cases outcome with
  | error e =>
    rw [Router.transaction_of_error hbegin]
    rcases hcourse.of_begin with ⟨_, -, hpin⟩ | ⟨_, hok, -⟩
    · rw [Router.inTransaction, Router.inTransaction, hpin]
    · cases hok
  | ok c =>
    rw [Router.transaction_of_ok hbegin, Router.inTransaction, Router.pinned_conclude]
    rcases hcourse.of_begin with ⟨_, herror, -⟩ | ⟨_, -, hpin, -⟩
    · cases herror
    · rw [Router.inTransaction, hpin]

/-- A body that does not end its transaction runs statements on its connection, and one further
command follows, by its outcome. -/
lemma Session.bracketed {body : Session σ α} {c : Connection} {outcome : Except RouteError α}
    (hpin : r.pinned = some c) (hrun : body.run d r = (outcome, r'))
    (hbody : ∀ m ∈ body.steps d r, m.operation.ends = false) :
    (∃ calls, (∀ e ∈ calls, e.ran = some c) ∧ r'.events = r.events ++ calls) ∧
      ∃ e, Ending c ((Operation.ending outcome).run d r').1.isOk (Operation.ending outcome) e ∧
        (Router.conclude d outcome r').2.events = r'.events ++ [e] := by
  have hserves := ((body.linked d r).serves hpin hbody).2
  rw [hrun] at hserves
  have hpinned : r'.pinned = some c := hserves.pinned_eq.trans hpin
  obtain ⟨calls, hcalls, hr'⟩ := hserves
  have hcourse := Operation.course d (Operation.ending outcome) r'
  obtain ⟨e, hending, hended⟩ := hcourse.of_ending.2 c hpinned
  obtain ⟨_, _, hlull, -⟩ := Lull.conclude d outcome r'
  refine ⟨⟨calls, hcalls, ?_⟩, e, hending, ?_⟩
  · exact congrArg Router.events hr'
  · rw [hlull]
    exact hended

/-- **A transaction brackets its body.** -/
theorem transaction_brackets_body (d : Driver σ) (body : Session σ α) (r : Router σ) :
    let result := Router.transaction d (body.run d) r
    -- a transaction is open behind it if and only if one was open before it
    result.2.inTransaction = r.inTransaction ∧
    -- inside of another transaction nothing happens at all
    (r.inTransaction = true → result = (.error .alreadyOpen, r)) ∧
    -- if it cannot begin, its body is not run
    (∀ e r₁, Router.begin d r = (.error e, r₁) → result = (.error e, r₁)) ∧
    ∀ c r₁ outcome r₂, Router.begin d r = (.ok c, r₁) → body.run d r₁ = (outcome, r₂) →
      -- one begin comes before the body
      (∃ trail, (∀ e ∈ trail, e.commanded = none) ∧
        r₁.events = r.events ++ trail ++ [.begin c true]) ∧
      -- a failure of the body is the result, and an answer only if it could be committed
      (∀ e, outcome = .error e → result.1 = .error e) ∧
      (∀ x, result.1 = .ok x → outcome = .ok x ∧ Router.commit d r₂ = (.ok (), result.2)) ∧
      -- one command comes after a body that does not end the transaction
      ((∀ m ∈ body.steps d r₁, m.operation.ends = false) →
        (∃ calls, (∀ e ∈ calls, e.ran = some c) ∧ r₂.events = r₁.events ++ calls) ∧
        ∃ ok : Bool, match outcome with
          | .ok x => result.2.events = r₂.events ++ [.commit c ok] ∧ (ok → result.1 = .ok x)
          | .error _ => result.2.events = r₂.events ++ [.rollback c ok]) := by
  refine ⟨Router.inTransaction_transaction d _ r, ?_, fun _ _ => Router.transaction_of_error, ?_⟩
  · intro hopen
    refine Router.transaction_of_error ?_
    obtain ⟨c, hpin⟩ := Option.isSome_iff_exists.mp hopen
    simp only [Router.begin, hpin]
  · intro c r₁ outcome r₂ hbegin hrun
    have hcourse := Router.course_begin d r
    rw [hbegin] at hcourse
    obtain ⟨hpin, htrail⟩ := hcourse.of_begun
    rw [Router.transaction_of_ok hbegin, hrun]
    refine ⟨htrail, ?_, fun x => Router.commit_of_conclude, fun hbody => ?_⟩
    · rintro e rfl
      exact Router.conclude_error d e r₂
    · obtain ⟨hcalls, e, hending, hended⟩ := Session.bracketed hpin hrun hbody
      refine ⟨hcalls, ((Operation.ending outcome).run d r₂).1.isOk, ?_⟩
      cases outcome with
      | ok x =>
        cases hending
        exact ⟨hended, Router.conclude_of_isOk⟩
      | error f =>
        cases hending
        exact hended

/-- A body that fails because it tries a transaction of its own, in a world where it cannot be
rolled back either. -/
theorem transaction_brackets_failing_body :
    let d := Script.driver Unit
    let body : Session (Script × Unit) Unit :=
      .call (.executeRaw "x" []) fun _ => .transaction (.finish (.ok ())) .finish
    ∃ r c r₁, Router.ofTopology .pair (Script.smooth.setFailure .rollback "lost", ()) = .ok r ∧
      Router.begin d r = (.ok c, r₁) ∧ (body.run d r₁).1 = .error .alreadyOpen ∧
      (Router.transaction d (body.run d) r).1 = .error .alreadyOpen ∧
      (Router.transaction d (body.run d) r).2.inTransaction = false ∧
      ∃ calls, ∃ ok : Bool, (∀ e ∈ calls, e.ran = some c) ∧ calls.length = 1 ∧
        (Router.transaction d (body.run d) r).2.events
          = r₁.events ++ calls ++ [.rollback c ok] := by
  intro d body
  obtain ⟨r, c, r₁, hr, hbegin, hrun, hlength, hsteps⟩ : ∃ r c r₁,
      Router.ofTopology .pair (Script.smooth.setFailure .rollback "lost", ()) = .ok r ∧
        Router.begin d r = (.ok c, r₁) ∧ (body.run d r₁).1 = .error .alreadyOpen ∧
        (body.run d r₁).2.events.length = r₁.events.length + 1 ∧
        (body.steps d r₁).all (fun m => !m.operation.ends) = true :=
    ⟨_, _, _, rfl, rfl, by decide +kernel, by decide +kernel, by decide +kernel⟩
  have hfree : r.inTransaction = false := by
    obtain rfl := Except.ok.inj hr
    rfl
  obtain ⟨hopen, -, -, hbegun⟩ := transaction_brackets_body d body r
  obtain ⟨-, hfailed, -, hbracketed⟩ :=
    hbegun c r₁ (.error .alreadyOpen) (body.run d r₁).2 hbegin (Prod.ext hrun rfl)
  obtain ⟨⟨calls, hcalls, hevents⟩, ok, hended⟩ :=
    hbracketed fun m hm => by simpa using List.all_eq_true.mp hsteps m hm
  refine ⟨r, c, r₁, hr, hbegin, hrun, hfailed _ rfl, hopen.trans hfree, calls, ok, hcalls, ?_, ?_⟩
  · simpa [hevents] using hlength
  · rw [hended, hevents]

end SqlWeave
