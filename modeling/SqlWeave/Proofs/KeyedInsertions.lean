import SqlWeave.Proofs.BindingOrder
import SqlWeave.Proofs.Families
import SqlWeave.Proofs.ReadWriteSplit
import SqlWeave.Proofs.Routing.Sending

/-!
# Insertions that report their key

A query for which a key is to be reported keeps the column of the key when a later call makes
another kind of statement of it.  Where the key is asked for, only that column is looked at.  So the
statement that is sent then is that of the query, whatever its kind.

* `Call.keying` — **the specification**: what a call makes of the kind and of the column.
* `Call.keying_run`, `Recipe.keying_build` — one call, and a program.
* `Step.Writes` — one statement goes to a node that changes data, if one is reached.
* `keyed_statements_go_to_a_writer` — the statement for every program and every session.
* `keyed_update_is_sent` — an update that is sent for its key.
-/

namespace SqlWeave

/-! ## The kind and the column -/

/-- The kind of a statement, and the column of the key that is to be reported. -/
structure Keying where
  kind : StatementKind
  column : Option String
  deriving DecidableEq, Repr

def Query.keying (q : Query) : Keying :=
  ⟨q.kind, q.sequence⟩

mutual

/-- What a call makes of the kind and of the column.  A kind is made by the last call that makes
one, but only a fresh query gives the column up. -/
def Call.keying : Call → Keying → Keying
  | .select _, k | .toAggregate _ _, k => { k with kind := .select }
  | .insertRow _, k | .insertColumns _, k | .insertValues _, k => { k with kind := .insert }
  | .insertReturning _ sequence, _ => ⟨.insert, some (sequence.getD "id")⟩
  | .setAssignments _, k => { k with kind := .update }
  | .makeDelete, k => { k with kind := .delete }
  | .toFresh, _ => ⟨.select, none⟩
  | .onlyIf condition calls, k => if condition then Call.keyingAll calls k else k
  | _, k => k

def Call.keyingAll : List Call → Keying → Keying
  | [], k => k
  | call :: calls, k => Call.keyingAll calls (call.keying k)

end

/-- The kind and the column that a program ends with. -/
def Recipe.keying (p : Recipe) : Keying :=
  Call.keyingAll p.calls ⟨.select, none⟩

/-! ## What a program makes of them -/

lemma Query.keying_insertRow (q : Query) (pairs : List (String × Param)) :
    (q.insertRow pairs).keying = { q.keying with kind := .insert } := by
  simp only [insertRow]
  split_ifs
  · rfl
  · split <;> rfl

lemma Query.keying_toAggregate (q : Query) (function : String) (columns : List String) :
    (q.toAggregate function columns).keying = { q.keying with kind := .select } := by
  simp only [toAggregate]
  split_ifs <;> rfl

/-- Of the clauses only the columns have a part in what kind of statement a query is. -/
lemma Family.Step.keying_eq {f : Family} {q q' : Query} (h : f.Step q q') (hf : f ≠ .columns) :
    q'.keying = q.keying := by
  cases h with
  | select => exact absurd rfl hf
  | _ => rfl

lemma Family.Steps.keying_eq {f : Family} {q q' : Query} (h : f.Steps q q') (hf : f ≠ .columns) :
    q'.keying = q.keying :=
  h.unchanged fun hstep => hstep.keying_eq hf

mutual

/-- **One call.** -/
theorem Call.keying_run : ∀ (call : Call) (q : Query), (call.run q).keying = call.keying q.keying
  | .onlyIf true calls, q => Call.keying_runAll calls q
  | .insertRow pairs, q => q.keying_insertRow pairs
  | .insertReturning pairs sequence, q =>
      congrArg (fun k : Keying => (⟨k.kind, some (sequence.getD "id")⟩ : Keying))
        (q.keying_insertRow pairs)
  | .toAggregate function columns, q => q.keying_toAggregate function columns
  | .onlyIf false _, _ | .insertColumns _, _ | .insertValues _, _ | .setAssignments _, _
  | .makeDelete, _ | .toFresh, _ | .select _, _ | .addColumns _, _ | .addRaw _ _, _
  | .addSub _ _, _ => rfl
  | .onTable _, q | .onRaw _, q | .makeDistinct, q | .onWriter, q | .whereEq _ _ _, q
  | .whereCompare _ _ _ _, q | .whereGroup _ _, q | .whereAll _ _, q | .addGroup _ _, q
  | .whereRaw _ _ _, q | .whereIn _ _ _ _, q | .whereInSub _ _ _ _, q | .whereNull _ _ _, q
  | .whereBetween _ _ _ _ _, q | .whereSub _ _ _ _, q | .whereExists _ _ _, q
  | .whereColumns _ _ _ _, q | .addJoin _ _ _, q | .groupBy _, q | .groupByRaw _, q
  | .having _ _ _ _, q | .havingRaw _ _ _, q | .havingBetween _ _ _, q | .orderBy _ _, q
  | .orderByText _ _, q | .orderByRaw _ _, q | .orderRandomly _, q | .setLimit _, q
  | .setOffset _, q | .forPage _ _, q | .setLock _, q | .addArm _ _, q | .addArmSub _ _, q =>
      (Call.steps_run _ q rfl).keying_eq (by decide)

/-- **Several calls.** -/
theorem Call.keying_runAll : ∀ (calls : List Call) (q : Query),
    (Call.runAll calls q).keying = Call.keyingAll calls q.keying
  | [], _ => rfl
  | call :: calls, q => by
      rw [Call.runAll, Call.keyingAll, ← call.keying_run q]
      exact Call.keying_runAll calls (call.run q)

end

/-- **A program.** -/
theorem Recipe.keying_build (p : Recipe) : p.build.keying = p.keying := by
  cases p with
  | mk style calls => exact Call.keying_runAll calls (Query.empty style)

/-! ## What is sent -/

variable {σ α : Type} {d : Driver σ} {t : Topology} {r : Router σ}

/-- **One statement goes to a node that changes data**, on a connection that was opened for it, if
such a node is reached.  Otherwise the step fails as reaching it does, and nothing is sent. -/
inductive Step.Writes (d : Driver σ) (t : Topology) (m : Step σ) (st : Statement) : Prop
  | unreached {e : RouteError} {trail : List Event}
      (hreach : Router.connection d .writer none m.before = (.error e, m.after))
      (hanswer : m.answer = .error e) (hevents : m.after.events = m.before.events ++ trail)
      (htrail : ∀ e ∈ trail, e.commanded = none)
  | sent {c : Connection} {r₁ : Router σ} {n : Registration} {trail calls : List Event}
      (hreach : Router.connection d .writer none m.before = (.ok c, r₁))
      (hnode : t.registrations[c.node]? = some n) (hwrites : n.writes = true)
      (hopened : c.OpenedFor n m.after.events)
      (hevents : m.after.events = m.before.events ++ trail ++ calls)
      (htrail : ∀ e ∈ trail, e.commanded = none) (hsent : Sent c st calls)

/-- The connection that is reached for changes is to a node that changes data. -/
lemma Sound.writer_reached {c : Connection} {name : Option String} {r₁ : Router σ} (h : Sound t r)
    (hreach : Router.Reach r .writer name (.ok c, r₁)) :
    ∃ n, t.registrations[c.node]? = some n ∧ n.writes = true ∧ c.OpenedFor n r₁.events := by
  obtain ⟨hkeeps, hpicked⟩ := h.reached hreach
  have hmem : c.node ∈ r.candidates .writer := by
    rcases hpicked with hpin | ⟨-, hmem⟩
    · exact (h.pinned hpin).1
    · exact hmem
  obtain ⟨n, hn, hwrites⟩ := h.takes_of_candidate hmem
  obtain ⟨-, n', hn', hopened⟩ := (h.reach hreach).kept hkeeps
  obtain rfl := Option.some.inj (hn.symm.trans hn')
  exact ⟨n, hn, hwrites, hopened⟩

/-- A query whose column is set and that can be written is written to a node that changes data. -/
lemma Operation.writes_insertReturning (d : Driver σ) (h : Sound t r) {q : Query} {column : String}
    (hcolumn : q.sequence = some column) {st : Statement} (hst : q.compile = .ok st) :
    ((insertReturning q).step d r).Writes d t st := by
  have hprepared : (insertReturning q).prepared r = .ok (some (.insert, st)) := by
    rw [prepared, hcolumn]
    exact finished_of_ok hst
  have hrun := run_of_prepared d hprepared rfl
  have hreach := Router.reach_connection d .writer none r
  rw [Action.bind_apply] at hrun
  rcases hconnection : Router.connection d .writer none r with ⟨outcome, r₁⟩
  rw [hconnection] at hreach hrun
  obtain ⟨trail, htrail, hprobes⟩ := hreach.events_eq
  cases outcome with
  | error e =>
    have hafter : ((insertReturning q).step d r).after = r₁ := congrArg Prod.snd hrun
    exact .unreached (hconnection.trans (by rw [hafter])) (congrArg Prod.fst hrun)
      (hafter ▸ htrail) hprobes
  | ok c =>
    obtain ⟨n, hn, hwrites, hopened⟩ := h.writer_reached hreach
    obtain ⟨world, calls, hsent, hproceed⟩ :=
      proceed_statement d .insert c st (o := insertReturning q) rfl r₁
    have hevents : ((insertReturning q).step d r).after.events = r₁.events ++ calls := by
      show ((insertReturning q).run d r).2.events = _
      rw [hrun, hproceed]
    refine .sent hconnection hn hwrites (hevents ▸ hopened.append calls) ?_ hprobes hsent
    exact hevents.trans (htrail ▸ rfl)

/-! ## The statement -/

/-- **A statement whose key is asked for goes to a node that changes data**, in every session and
for every program, if the program has set a column and can be written.  Without a column, or if it
cannot be written, it is refused and nothing is changed.  It is an insertion only if no later call
of the program made something else of it. -/
theorem keyed_statements_go_to_a_writer {world : σ} (h : Router.ofTopology t world = .ok r)
    (d : Driver σ) (s : Session σ α) (p : Recipe) :
    p.build.kind = p.keying.kind ∧
    ∀ m ∈ s.steps d r, m.operation = .insertReturning p.build →
      (p.keying.column = none → m.answer = .error (.query .noSequence) ∧ m.after = m.before) ∧
      ∀ column, p.keying.column = some column →
        (∀ e, p.build.compile = .error e → m.answer = .error (.query e) ∧ m.after = m.before) ∧
        ∀ st, p.build.compile = .ok st → m.Writes d t st := by
  have hcolumn : p.build.sequence = p.keying.column := congrArg Keying.column p.keying_build
  refine ⟨congrArg Keying.kind p.keying_build, fun m hm hoperation => ?_⟩
  have hsound := ((Session.sound h d s).1 m hm).1
  have hstep := (s.linked d r).eq_step hm
  rw [hoperation] at hstep
  have hrefused : ∀ e, (Operation.insertReturning p.build).prepared m.before = .error e →
      m.answer = .error e ∧ m.after = m.before := by
    intro e he
    have hrun := Operation.run_of_refused d he
    rw [hstep]
    exact ⟨congrArg Prod.fst hrun, congrArg Prod.snd hrun⟩
  constructor
  · intro hnone
    exact hrefused _ (by rw [Operation.prepared, hcolumn, hnone])
  · intro column hsome
    refine ⟨fun e he => hrefused _ ?_, fun st hst => ?_⟩
    · rw [Operation.prepared, hcolumn, hsome, Operation.finished_of_compile_error he]
    · rw [hstep]
      exact Operation.writes_insertReturning d hsound (hcolumn.trans hsome) hst

/-- In a transaction the key of a row is asked for twice, of a program that has not set a column and
of one that has. -/
theorem keyed_statements_go_to_a_writer_in_transaction :
    let row := [("a", Param.value (.int 1))]
    let plain : Recipe := ⟨.plain .mysql, [.onTable "t", .insertRow row]⟩
    let keyed : Recipe := ⟨.plain .mysql, [.onTable "t", .setAssignments row,
      .onlyIf true [.insertReturning row none, .addRaw "b" []]]⟩
    let d := Script.driver Unit
    let s : Session (Script × Unit) Unit :=
      .call .begin fun _ => .call (.insertReturning plain.build) fun _ =>
        .call (.insertReturning keyed.build) fun _ => .finish (.ok ())
    ∃ r st, Router.ofTopology .pair (Script.smooth, ()) = .ok r ∧
      keyed.build.compile = .ok st ∧ keyed.build.kind = .insert ∧
      ∃ m m', s.steps d r = [Operation.begin.step d r, m, m'] ∧ m.before.inTransaction = true ∧
        m.answer = .error (.query .noSequence) ∧ m.after = m.before ∧ m'.Writes d .pair st := by
  intro row plain keyed d s
  obtain ⟨r, hr, hopen⟩ : ∃ r, Router.ofTopology .pair (Script.smooth, ()) = .ok r ∧
      (Operation.begin.step d r).after.inTransaction = true :=
    ⟨_, rfl, by decide +kernel⟩
  obtain ⟨st, hst, -⟩ : ∃ st, keyed.build.compile = .ok st ∧ st.values.length = 1 :=
    exists_ok_of_toOption (by decide +kernel)
  let m := (Operation.insertReturning plain.build).step d (Operation.begin.step d r).after
  let m' := (Operation.insertReturning keyed.build).step d m.after
  have hsteps : s.steps d r = [Operation.begin.step d r, m, m'] := rfl
  obtain ⟨-, hplain⟩ := keyed_statements_go_to_a_writer hr d s plain
  obtain ⟨hkind, hkeyed⟩ := keyed_statements_go_to_a_writer hr d s keyed
  obtain ⟨hanswer, hafter⟩ := (hplain m (by simp [hsteps]) rfl).1 rfl
  have hwrites := ((hkeyed m' (by simp [hsteps]) rfl).2 "id" rfl).2 st hst
  exact ⟨r, st, hr, hst, hkind, m, m', hsteps, hopen, hanswer, hafter, hwrites⟩

/-- An insertion that later calls made an update of, or a select, is sent as such for its key. -/
theorem keyed_update_is_sent :
    let keyed : List Call := [.onTable "t", .insertReturning [("a", .value (.int 1))] none]
    let update : Recipe := ⟨.plain .mysql, keyed ++ [.setAssignments [("a", .value (.int 2))]]⟩
    let select : Recipe := ⟨.plain .mysql, keyed ++ [.select [.name "a"]]⟩
    let d := Script.driver Unit
    ∃ r st st', Router.ofTopology .pair (Script.smooth, ()) = .ok r ∧
      (update.build.kind = .update ∧ update.build.compile = .ok st ∧
        ((Operation.insertReturning update.build).step d r).answer.isOk = true ∧
        ((Operation.insertReturning update.build).step d r).Writes d .pair st) ∧
      select.build.kind = .select ∧ select.build.compile = .ok st' ∧
        ((Operation.insertReturning select.build).step d r).answer.isOk = true ∧
        ((Operation.insertReturning select.build).step d r).Writes d .pair st' := by
  intro keyed update select d
  obtain ⟨r, hr, hupdated, hselected⟩ : ∃ r,
      Router.ofTopology .pair (Script.smooth, ()) = .ok r ∧
        ((Operation.insertReturning update.build).step d r).answer.isOk = true ∧
        ((Operation.insertReturning select.build).step d r).answer.isOk = true :=
    ⟨_, rfl, by decide +kernel, by decide +kernel⟩
  obtain ⟨st, hst, -⟩ : ∃ st, update.build.compile = .ok st ∧ st.values.length = 1 :=
    exists_ok_of_toOption (by decide +kernel)
  obtain ⟨st', hst', -⟩ : ∃ st, select.build.compile = .ok st ∧ st.values.length = 0 :=
    exists_ok_of_toOption (by decide +kernel)
  have hsound := Sound.ofTopology hr
  exact ⟨r, st, st', hr, ⟨rfl, hst, hupdated, Operation.writes_insertReturning d hsound rfl hst⟩,
    rfl, hst', hselected, Operation.writes_insertReturning d hsound rfl hst'⟩

end SqlWeave
