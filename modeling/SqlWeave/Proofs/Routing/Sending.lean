import SqlWeave.Proofs.Routing.Course

/-!
# From an operation to what is sent

Before an operation reaches for a connection it has decided what it will send, or has been refused.
`Course` says that one of these happens; here it is said which, and with which statement.

* `Operation.prepared` — what an operation has decided before it reaches for a connection.
* `Operation.proceed` — what it does on the connection.
* `Operation.run_of_refused`, `Operation.run_of_prepared` — an operation is these two parts.
* `Operation.proceed_statement` — **one statement is sent, and one record may be written.**
* `Operation.proceed_frame` — what is done on a connection leaves the nodes and the turns alone.
-/

namespace SqlWeave

variable {σ : Type} {d : Driver σ} {r : Router σ} {o : Operation}

/-- A finished statement is simply gone on with. -/
lemma Action.ofQuery_bind {α β : Type} (x : α) (f : α → Action σ β) :
    Action.ofQuery (.ok x) >>= f = f x :=
  rfl

namespace Operation

/-! ## Two parts of an operation -/

/-- The finished statement of a query, logged under a kind. -/
def finished (kind : StatementKind) (q : Query) :
    Except RouteError (Option (StatementKind × Statement)) :=
  (q.compile.mapError .query).map fun s => some (kind, s)

/-- What an operation has decided before it reaches for a connection: it is refused, or it has a
statement, with the kind under which that is logged, or it has none. -/
def prepared (r : Router σ) : Operation → Except RouteError (Option (StatementKind × Statement))
  | .writer _ | .reader _ | .disconnect => .ok none
  | .begin => if r.inTransaction then .error .alreadyOpen else .ok none
  | .commit => if r.inTransaction then .ok none else .error .nothingToCommit
  | .rollback => if r.inTransaction then .ok none else .error .nothingToRollBack
  | .select q =>
    if q.kind ≠ .select then .error (.query (.notSelect q.kind)) else finished .select q
  | .execute q => if q.kind.isWrite then finished q.kind q else .error (.query .notWrite)
  | .insertReturning q =>
    match q.sequence with
    | none => .error (.query .noSequence)
    | some _ => finished .insert q
  | .selectRaw sql values => .ok (some (.select, ⟨r.withPrefix sql, values⟩))
  | .executeRaw sql values => .ok (some (.update, ⟨r.withPrefix sql, values⟩))

/-- Sends an insertion and finds out the key that it makes. -/
def sendInsertion (d : Driver σ) (sequence : String) (kind : StatementKind) (c : Connection)
    (s : Statement) : Action σ (Option Value) := fun r =>
  if r.style.dialect = .postgres then
    (do
      let rows ← Router.sendQuery d kind c s
      pure (Router.keyOf sequence rows)) r
  else
    (do
      let _ ← Router.sendExecute d kind c s
      Action.attempt (d.lastInsertId c (some sequence)) (.lastInsertId c (some sequence))) r

/-- What an operation does on the connection that it has reached, with its statement. -/
def proceed (d : Driver σ) (c : Connection) :
    Operation → Option (StatementKind × Statement) → Action σ Answer
  | .begin, _ => do
    Action.attempt (d.begin c) (.begin c)
    Action.tell (.begun c.name)
    fun r => (.ok (.connection c), { r with pinned := some c })
  | .select _, some (kind, s) | .selectRaw .., some (kind, s) => do
    pure (.rows (← Router.sendQuery d kind c s))
  | .execute _, some (kind, s) | .executeRaw .., some (kind, s) => do
    pure (.count (← Router.sendExecute d kind c s))
  | .insertReturning q, some (kind, s) => do
    pure (.key (← sendInsertion d (q.sequence.getD "") kind c s))
  | _, _ => pure (.connection c)

/-- A query that can be written is prepared as its statement. -/
lemma finished_of_ok {kind : StatementKind} {q : Query} {s : Statement} (h : q.compile = .ok s) :
    finished kind q = .ok (some (kind, s)) := by
  rw [finished, h]
  rfl

lemma finished_of_compile_error {kind : StatementKind} {q : Query} {e : QueryError}
    (h : q.compile = .error e) : finished kind q = .error (.query e) := by
  rw [finished, h]
  rfl

/-- A failure to prepare is always one of the query. -/
lemma finished_of_error {kind : StatementKind} {q : Query} {e : RouteError}
    (h : finished kind q = .error e) : ∃ e', q.compile = .error e' ∧ e = .query e' := by
  cases hq : q.compile with
  | error e' =>
    rw [finished, hq] at h
    exact ⟨e', rfl, (Except.error.inj h).symm⟩
  | ok s =>
    rw [finished_of_ok hq] at h
    cases h

lemma compile_of_finished {kind : StatementKind} {q : Query}
    {p : Option (StatementKind × Statement)} (h : finished kind q = .ok p) :
    ∃ s, q.compile = .ok s ∧ p = some (kind, s) := by
  cases hq : q.compile with
  | error e => simp [finished, hq, Except.mapError, Except.map] at h
  | ok s =>
    rw [finished_of_ok hq] at h
    exact ⟨s, rfl, (Except.ok.inj h).symm⟩

/-- An operation has a statement if it sends one. -/
lemma isSome_of_prepared {p : Option (StatementKind × Statement)} (h : o.prepared r = .ok p) :
    p.isSome = o.sends := by
  have hfinished : ∀ {kind : StatementKind} {q : Query},
      finished kind q = .ok p → p.isSome = true := by
    intro kind q hp
    obtain ⟨s, -, rfl⟩ := compile_of_finished hp
    rfl
  cases o with
  | writer | reader | disconnect =>
    obtain rfl := Except.ok.inj h
    rfl
  | begin | commit | rollback =>
    simp only [prepared] at h
    split_ifs at h
    obtain rfl := Except.ok.inj h
    rfl
  | select q | execute q =>
    simp only [prepared] at h
    split_ifs at h
    exact hfinished h
  | insertReturning q =>
    simp only [prepared] at h
    cases hsequence : q.sequence with
    | none => simp [hsequence] at h
    | some sequence =>
      simp only [hsequence] at h
      exact hfinished h
  | selectRaw sql values | executeRaw sql values =>
    obtain rfl := Except.ok.inj h
    rfl

/-! ## An operation is its two parts -/

/-- A refused operation leaves everything as it is. -/
theorem run_of_refused {e : RouteError} (d : Driver σ) (h : o.prepared r = .error e) :
    o.run d r = (.error e, r) := by
  cases o with
  | writer | reader | disconnect | selectRaw | executeRaw => cases h
  -- The pin decides these three, and the query the other three.
  | begin =>
    simp only [prepared, Router.inTransaction] at h
    cases hpin : r.pinned with
    | none => simp [hpin] at h
    | some c =>
      obtain rfl : .alreadyOpen = e := by simpa [hpin] using h
      simp only [run, Action.bind_apply, Router.begin, hpin]
  | commit | rollback =>
    simp only [prepared, Router.inTransaction] at h
    cases hpin : r.pinned with
    | some c => simp [hpin] at h
    | none =>
      obtain rfl : _ = e := by simpa [hpin] using h
      simp only [run, Action.bind_apply, Router.commit, Router.rollback, Router.release, hpin]
  | select q =>
    simp only [prepared] at h
    simp only [run, Router.select, Action.bind_apply]
    split_ifs at h with hkind
    · obtain rfl := Except.error.inj h
      rw [if_pos hkind]
      rfl
    · obtain ⟨e', hq, rfl⟩ := finished_of_error h
      rw [if_neg hkind, hq]
      rfl
  | execute q =>
    simp only [prepared] at h
    simp only [run, Router.execute, Action.bind_apply]
    split_ifs at h with hkind
    · obtain ⟨e', hq, rfl⟩ := finished_of_error h
      rw [if_pos hkind, hq]
      rfl
    · obtain rfl := Except.error.inj h
      rw [if_neg hkind]
      rfl
  | insertReturning q =>
    simp only [prepared] at h
    simp only [run, Router.insertReturning, Action.bind_apply]
    cases hsequence : q.sequence with
    | none =>
      simp only [hsequence] at h
      obtain rfl := Except.error.inj h
      rfl
    | some sequence =>
      simp only [hsequence] at h
      obtain ⟨e', hq, rfl⟩ := finished_of_error h
      rw [hq]
      rfl

/-- Any other operation that needs a connection reaches for it and goes on with it. -/
theorem run_of_prepared {p : Option (StatementKind × Statement)} {role : Role}
    {name : Option String} (d : Driver σ) (h : o.prepared r = .ok p)
    (hwanted : o.wanted? = some (role, name)) :
    o.run d r = (Router.connection d role name >>= fun c => o.proceed d c p) r := by
  cases o with
  | commit | rollback | disconnect => cases hwanted
  | writer | reader =>
    obtain ⟨rfl, rfl⟩ := Prod.mk.inj (Option.some.inj hwanted)
    rfl
  | begin =>
    obtain ⟨rfl, rfl⟩ := Prod.mk.inj (Option.some.inj hwanted)
    simp only [prepared, Router.inTransaction] at h
    cases hpin : r.pinned with
    | some c => simp [hpin] at h
    | none => exact run_begin d hpin
  | select q =>
    simp only [prepared] at h
    split_ifs at h with hkind
    obtain ⟨s, hq, rfl⟩ := compile_of_finished h
    obtain ⟨rfl, rfl⟩ := Prod.mk.inj (Option.some.inj hwanted)
    simp only [run, Router.select, if_neg hkind, hq, Action.ofQuery_bind, proceed]
    cases q.usesWriter <;> exact congrFun (Action.bind_assoc ..) r
  | execute q =>
    simp only [prepared] at h
    split_ifs at h with hkind
    obtain ⟨s, hq, rfl⟩ := compile_of_finished h
    obtain ⟨rfl, rfl⟩ := Prod.mk.inj (Option.some.inj hwanted)
    simp only [run, Router.execute, if_pos hkind, hq, Action.ofQuery_bind, proceed]
    exact congrFun (Action.bind_assoc ..) r
  | insertReturning q =>
    obtain ⟨rfl, rfl⟩ := Prod.mk.inj (Option.some.inj hwanted)
    simp only [prepared] at h
    cases hsequence : q.sequence with
    | none => simp [hsequence] at h
    | some sequence =>
      simp only [hsequence] at h
      obtain ⟨s, hq, rfl⟩ := compile_of_finished h
      have hinsert : Router.insertReturning d q = Router.connection d .writer none >>= fun c =>
          sendInsertion d sequence .insert c s := by
        simp only [Router.insertReturning, hsequence, hq, Action.ofQuery_bind]
        rfl
      simp only [run, hinsert, Action.bind_assoc, proceed, hsequence, Option.getD_some]
  -- Raw SQL is never refused, so it needs no case of its own kind.
  | selectRaw sql values =>
    simp only [prepared, Except.ok.injEq] at h
    obtain ⟨rfl, rfl⟩ := Prod.mk.inj (Option.some.inj hwanted)
    subst h
    simp only [run, Action.bind_congr (selectRaw_apply d sql values r), Action.bind_assoc, proceed]
  | executeRaw sql values =>
    simp only [prepared, Except.ok.injEq] at h
    obtain ⟨rfl, rfl⟩ := Prod.mk.inj (Option.some.inj hwanted)
    subst h
    simp only [run, Action.bind_congr (executeRaw_apply d sql values r), Action.bind_assoc, proceed]

/-! ## The statement and its record -/

/-- What is sent on a connection for a statement, and the record of it. -/
lemma proceed_statement (d : Driver σ) (kind : StatementKind) (c : Connection) (s : Statement)
    (hsends : o.sends) (r : Router σ) :
    ∃ world calls, Sent c s calls ∧ (o.proceed d c (some (kind, s)) r).2 = { r with
      world := world
      events := r.events ++ calls
      log := r.log ++ (r.topology.log.record? kind c.name s.sql s.values.length).toList } := by
  have hquery : ∃ world calls, Sent c s calls ∧ (Router.sendQuery d kind c s r).2 = { r with
      world := world
      events := r.events ++ calls
      log := r.log ++ (r.topology.log.record? kind c.name s.sql s.values.length).toList } :=
    ⟨(d.query c s r.world).2, _, .query (d.query c s r.world).1.isOk, rfl⟩
  have hexecute : ∃ world calls, Sent c s calls ∧ (Router.sendExecute d kind c s r).2 = { r with
      world := world
      events := r.events ++ calls
      log := r.log ++ (r.topology.log.record? kind c.name s.sql s.values.length).toList } :=
    ⟨(d.execute c s r.world).2, _, .execute (d.execute c s r.world).1.isOk, rfl⟩
  cases o with
  | writer | reader | begin | commit | rollback | disconnect => cases hsends
  | select | selectRaw =>
    rw [proceed, Action.snd_bind_pure]
    exact hquery
  | execute | executeRaw =>
    rw [proceed, Action.snd_bind_pure]
    exact hexecute
  -- The one operation with two ways to send; with the second, the key is asked for only after
  -- success.
  | insertReturning q =>
    rw [proceed, Action.snd_bind_pure, sendInsertion]
    split_ifs
    · rw [Action.snd_bind_pure]
      exact hquery
    · simp only [Action.bind_apply, Router.sendExecute, Router.logStatement, Action.attempt_apply]
      rcases d.execute c s r.world with ⟨outcome, world⟩
      cases outcome with
      | error e => exact ⟨world, _, .execute false, rfl⟩
      | ok n =>
        let sequence := some (q.sequence.getD "")
        refine ⟨(d.lastInsertId c sequence world).2, _,
          .insert sequence (d.lastInsertId c sequence world).1.isOk, ?_⟩
        simp only [List.append_assoc]
        rfl

/-- What is done on a connection is commands to it.  They may be logged, and the connection may be
pinned, but the nodes and the turns are left alone. -/
lemma proceed_frame (d : Driver σ) (c : Connection) {p : Option (StatementKind × Statement)}
    (hp : o.prepared r = .ok p) (r₁ : Router σ) :
    ∃ world calls notes pin, (∀ e ∈ calls, e.commanded = some c) ∧
      (o.proceed d c p r₁).2 = { r₁ with
        pinned := pin
        world := world
        events := r₁.events ++ calls
        log := r₁.log ++ notes } := by
  have hsome := isSome_of_prepared hp
  cases p with
  | some statement =>
    obtain ⟨world, calls, hsent, hafter⟩ :=
      proceed_statement d statement.1 c statement.2 hsome.symm r₁
    exact ⟨world, calls, _, r₁.pinned, hsent.commanded, hafter⟩
  | none =>
    cases o with
    | select | execute | insertReturning | selectRaw | executeRaw => cases hsome
    | writer | reader | commit | rollback | disconnect =>
      refine ⟨r₁.world, [], [], r₁.pinned, by simp, ?_⟩
      rw [List.append_nil, List.append_nil]
      rfl
    | begin =>
      simp only [proceed, Action.bind_apply, Action.attempt_apply]
      rcases d.begin c r₁.world with ⟨outcome, world⟩
      cases outcome with
      | ok x =>
        exact ⟨world, [.begin c true], [.begun c.name], some c, by simp [Event.commanded], rfl⟩
      | error e =>
        refine ⟨world, [.begin c false], [], r₁.pinned, by simp [Event.commanded], ?_⟩
        rw [List.append_nil]
        rfl

end Operation

end SqlWeave
