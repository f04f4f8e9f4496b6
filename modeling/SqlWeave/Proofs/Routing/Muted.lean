import SqlWeave.Proofs.Routing.Steps

/-!
# Routers that log no statements

Whether statements are logged is a setting of the topology.  It is read where a record would be
written and nowhere else, so a router that logs none does what the other one does.

* `Router.muted` — the same router with statements neither logged from now on nor in its log.
* `Action.IgnoresLog` — whether an action does the same on both, with lemmas for each way in which
  operations are put together.
* `Operation.ignoresLog` — every operation does.
* `Session.IgnoresLog` — a session that does not choose by the log; `Session.run_muted` and
  `Session.steps_muted` say that it runs in the same way on both.
-/

namespace SqlWeave

variable {σ α β : Type} {d : Driver σ}

/-! ## Without records of statements -/

/-- The topology in which statements are not logged. -/
def Topology.muted (t : Topology) : Topology :=
  { t with log := { t.log with enabled := false } }

namespace Router

/-- The router as if it had never logged a statement and never would. -/
def muted (r : Router σ) : Router σ :=
  { r with
    topology := r.topology.muted
    log := r.log.filter fun l => !l.isStatement }

/-- The dialect and the prefix are no part of the setting, and so are the texts that are sent. -/
lemma muted_style (r : Router σ) : r.muted.style = r.style :=
  rfl

lemma muted_withPrefix (r : Router σ) (sql : String) : r.muted.withPrefix sql = r.withPrefix sql :=
  rfl

/-- Records that are not of statements are kept. -/
lemma muted_note (r : Router σ) {notes : List LogRecord} (h : ∀ l ∈ notes, l.isStatement = false) :
    ({ r with log := r.log ++ notes } : Router σ).muted
      = { r.muted with log := r.muted.log ++ notes } := by
  have hkept : notes.filter (fun l => !l.isStatement) = notes :=
    List.filter_eq_self.mpr fun l hl => by simp [h l hl]
  simp [muted, hkept]

end Router

/-- The router of a muted topology is the muted router of the topology. -/
lemma Router.ofTopology_muted (t : Topology) (world : σ) :
    Router.ofTopology t.muted world = (Router.ofTopology t world).map Router.muted := by
  have hfault : t.muted.fault? = t.fault? := rfl
  simp only [ofTopology, Topology.validate, hfault]
  cases t.fault? with
  | some fault => rfl
  | none => rfl

/-! ## Actions that ignore the log -/

/-- Whether an action answers the same on a muted router and makes the same of it. -/
structure Action.IgnoresLog (a : Action σ α) : Prop where
  apply_muted : ∀ r, a r.muted = ((a r).1, (a r).2.muted)

namespace Action

namespace IgnoresLog

protected lemma pure (x : α) : IgnoresLog (σ := σ) (Pure.pure x) :=
  ⟨fun _ => rfl⟩

/-- What is an action only in form leaves the router as it is. -/
protected lemma ofExcept (x : Except RouteError α) : IgnoresLog (σ := σ) (Action.ofExcept x) :=
  ⟨fun _ => rfl⟩

protected lemma fail (e : RouteError) : IgnoresLog (Action.fail e : Action σ α) :=
  ⟨fun _ => rfl⟩

/-- A driver is called with the world, and the log is no part of that. -/
protected lemma call {γ : Type} (run : σ → γ × σ) (note : γ → Event) :
    IgnoresLog (Action.call run note) :=
  ⟨fun _ => rfl⟩

/-- A record of anything but a statement is written by both. -/
protected lemma tell {l : LogRecord} (h : l.isStatement = false) :
    IgnoresLog (σ := σ) (Action.tell l) := by
  refine ⟨fun r => ?_⟩
  simp only [Action.tell]
  rw [r.muted_note (by simpa using h)]

/-- In sequence: the second action starts on the muted router that the first one leaves. -/
protected lemma bind {a : Action σ α} {f : α → Action σ β} (ha : a.IgnoresLog)
    (hf : ∀ x, (f x).IgnoresLog) : (a >>= f).IgnoresLog := by
  refine ⟨fun r => ?_⟩
  rw [bind_apply, bind_apply, ha.apply_muted r]
  rcases a r with ⟨outcome, r₁⟩
  cases outcome with
  | ok x => exact (hf x).apply_muted r₁
  | error e => rfl

/-- A call on the driver whose failure is the failure of the action. -/
protected lemma attempt (run : σ → Except RouteError α × σ) (note : Bool → Event) :
    IgnoresLog (Action.attempt run note) :=
  (IgnoresLog.call run fun x => note x.isOk).bind .ofExcept

end IgnoresLog

end Action

namespace Router

open SqlWeave.Action (IgnoresLog)

/-! ## Reaching a connection -/

/-- A node is picked by the turns and the configured names. -/
lemma ignoresLog_pick (role : Role) (name : Option String) :
    IgnoresLog (pick role name : Action σ Nat) := by
  refine ⟨fun r => ?_⟩
  have hcandidates : r.muted.candidates role = r.candidates role := by cases role <;> rfl
  have hturn : r.muted.turn role = r.turn role := by cases role <;> rfl
  have hkey : r.muted.hasKey = r.hasKey := rfl
  have hadvance : r.muted.advance role = (r.advance role).muted := by cases role <;> rfl
  simp only [pick, hcandidates, hturn, hkey, hadvance]
  split_ifs
  · rfl
  · cases name with
    | none => rfl
    | some name =>
      simp only
      cases (r.candidates role).find? (r.hasKey name) <;> rfl

/-- One more record that is not of a statement. -/
lemma muted_tell (r : Router σ) {l : LogRecord} (h : l.isStatement = false) :
    ({ r with log := r.log ++ [l] } : Router σ).muted
      = { r.muted with log := r.muted.log ++ [l] } :=
  r.muted_note (by simpa using h)

/-- Opening is tried the configured number of times, and what is noted of that is no statement. -/
lemma ignoresLog_openConnection (d : Driver σ) (i : Nat) (n : Registration) (left made : Nat) :
    IgnoresLog (openConnection d i n left made) := by
  have hknock : IgnoresLog (knock d i n) := .attempt ..
  have hestablish (made : Nat) (r : Router σ) :
      establish i n made r.muted = ((establish i n made r).1, (establish i n made r).2.muted) := by
    have htold := muted_tell { r with opened := r.opened + 1 } (l := .connected n.name made) rfl
    exact congrArg (Prod.mk _) htold.symm
  -- On the attempts that are left.
  induction left generalizing made with
  | zero =>
    refine ⟨fun r => ?_⟩
    simp only [openConnection, hknock.apply_muted r]
    rcases knock d i n r with ⟨outcome, r₁⟩
    cases outcome with
    | ok x => exact hestablish made r₁
    | error e => rfl
  | succ left ih =>
    refine ⟨fun r => ?_⟩
    simp only [openConnection, hknock.apply_muted r]
    rcases knock d i n r with ⟨outcome, r₁⟩
    cases outcome with
    | ok x => exact hestablish made r₁
    | error e =>
      let l := LogRecord.retrying n.name (made + 1) n.config.retries e.message
      have hretried := (ih (made + 1)).apply_muted { r₁ with log := r₁.log ++ [l] }
      rwa [muted_tell r₁ (l := l) rfl] at hretried

/-- An opened connection is kept and recorded, which is no record of a statement. -/
lemma ignoresLog_reopen (d : Driver σ) (i : Nat) (n : Registration) :
    IgnoresLog (reopen d i n) := by
  refine ⟨fun r => ?_⟩
  simp only [reopen, (ignoresLog_openConnection d i n n.config.retries 0).apply_muted r]
  rcases openConnection d i n n.config.retries 0 r with ⟨outcome, r₁⟩
  cases outcome <;> rfl

/-- A connection that is kept is pinged before it is handed out, and that is not logged either. -/
lemma ignoresLog_connect (d : Driver σ) (i : Nat) : IgnoresLog (connect d i) := by
  refine ⟨fun r => ?_⟩
  cases hnode : r.nodes[i]? with
  | none =>
    have hnode' : r.muted.nodes[i]? = none := hnode
    simp only [connect, hnode, hnode']
  | some n =>
    have hnode' : r.muted.nodes[i]? = some n := hnode
    cases hkept : n.connection with
    | none =>
      simp only [connect, hnode, hnode', hkept]
      exact (ignoresLog_reopen d i n.registration).apply_muted r
    | some c =>
      rw [connect_of_kept d hnode hkept, connect_of_kept d hnode' hkept]
      simp only
      have hworld : r.muted.world = r.world := rfl
      rw [hworld]
      split_ifs
      · rfl
      · have hlost := (ignoresLog_reopen d i n.registration).apply_muted { r with
          world := (d.ping c r.world).2
          events := r.events ++ [.ping c (d.ping c r.world).1]
          log := r.log ++ [.lost n.registration.name] }
        rw [muted_tell { r with
          world := (d.ping c r.world).2
          events := r.events ++ [.ping c (d.ping c r.world).1] } rfl] at hlost
        exact hlost

/-- The pinned connection or a picked node, in the same way on both. -/
lemma ignoresLog_connection (d : Driver σ) (role : Role) (name : Option String) :
    IgnoresLog (connection d role name) := by
  refine ⟨fun r => ?_⟩
  have hpin : r.muted.pinned = r.pinned := rfl
  simp only [connection, hpin]
  cases r.pinned with
  | some c => rfl
  | none =>
    exact ((ignoresLog_pick role name).bind fun i => ignoresLog_connect d i).apply_muted r

/-! ## Transactions -/

/-- Beginning reads the pin and writes a record of a transaction. -/
lemma ignoresLog_begin (d : Driver σ) : IgnoresLog (begin d) := by
  refine ⟨fun r => ?_⟩
  have hpin : r.muted.pinned = r.pinned := rfl
  simp only [begin, hpin]
  cases r.pinned with
  | some c => rfl
  | none =>
    refine ((ignoresLog_connection d .writer none).bind fun c => ?_).apply_muted r
    exact (IgnoresLog.attempt ..).bind fun _ => (IgnoresLog.tell rfl).bind fun _ => ⟨fun _ => rfl⟩

/-- The pin is given up whatever the log says, and without one the action fails on both. -/
lemma ignoresLog_release (e : RouteError) : IgnoresLog (release e : Action σ Connection) := by
  refine ⟨fun r => ?_⟩
  have hpin : r.muted.pinned = r.pinned := rfl
  simp only [release, hpin]
  cases r.pinned <;> rfl

/-- The two ends of a transaction are one action with different calls. -/
lemma ignoresLog_commit (d : Driver σ) : IgnoresLog (commit d) :=
  (ignoresLog_release _).bind fun _ => (IgnoresLog.attempt ..).bind fun _ => .tell rfl

lemma ignoresLog_rollback (d : Driver σ) : IgnoresLog (rollback d) :=
  (ignoresLog_release _).bind fun _ => (IgnoresLog.attempt ..).bind fun _ => .tell rfl

/-- How a transaction ends depends on what its body answered. -/
lemma ignoresLog_conclude (d : Driver σ) (outcome : Except RouteError α) :
    IgnoresLog (conclude d outcome) := by
  cases outcome with
  | ok x => exact (ignoresLog_commit d).bind fun _ => .pure x
  | error e =>
    refine ⟨fun r => ?_⟩
    simp only [conclude, (ignoresLog_rollback d).apply_muted r]
    rcases rollback d r with ⟨ended, r₁⟩
    cases ended with
    | ok x => rfl
    | error f =>
      have htold := muted_tell r₁ (l := .rollbackFailed f.message) rfl
      exact congrArg (Prod.mk _) htold.symm

/-- **A transaction** ignores the log if its body does. -/
lemma ignoresLog_transaction (d : Driver σ) {body : Action σ α} (hbody : body.IgnoresLog) :
    IgnoresLog (transaction d body) := by
  refine ⟨fun r => ?_⟩
  simp only [transaction, (ignoresLog_begin d).apply_muted r]
  rcases begin d r with ⟨begun, r₁⟩
  cases begun with
  | error e => rfl
  | ok c =>
    simp only [hbody.apply_muted r₁]
    exact (ignoresLog_conclude d _).apply_muted _

/-- Disconnecting gives everything up and writes of it. -/
lemma ignoresLog_disconnect : IgnoresLog (disconnect : Action σ Unit) := by
  refine ⟨fun r => ?_⟩
  cases hpin : r.pinned <;> simp [disconnect, muted, hpin, LogRecord.isStatement]

/-! ## Statements -/

/-- The record of a statement is all that is missing. -/
lemma ignoresLog_logStatement (kind : StatementKind) (c : Connection) (s : Statement) :
    IgnoresLog (logStatement kind c s : Action σ Unit) := by
  refine ⟨fun r => ?_⟩
  have hnone : r.muted.topology.log.record? kind c.name s.sql s.values.length = none := rfl
  have hdropped : (r.topology.log.record? kind c.name s.sql s.values.length).toList.filter
      (fun l => !l.isStatement) = [] := by
    rw [LogPolicy.record?]
    split_ifs <;> rfl
  simp only [logStatement, hnone, Option.toList_none, List.append_nil]
  simp only [muted, List.filter_append, hdropped, List.append_nil]

/-- Running for rows: with the record of the statement, which only one of the two routers writes. -/
lemma ignoresLog_sendQuery (d : Driver σ) (kind : StatementKind) (c : Connection)
    (s : Statement) : IgnoresLog (sendQuery d kind c s) :=
  (ignoresLog_logStatement kind c s).bind fun _ => .attempt ..

lemma ignoresLog_sendExecute (d : Driver σ) (kind : StatementKind) (c : Connection)
    (s : Statement) : IgnoresLog (sendExecute d kind c s) :=
  (ignoresLog_logStatement kind c s).bind fun _ => .attempt ..

/-- The kind of the query is looked at, then its text and the connection. -/
lemma ignoresLog_select (d : Driver σ) (q : Query) : IgnoresLog (select d q) := by
  rw [select]
  split_ifs
  · exact .fail _
  · exact (IgnoresLog.ofExcept _).bind fun s => (ignoresLog_connection ..).bind fun c =>
      ignoresLog_sendQuery ..
  · exact (IgnoresLog.ofExcept _).bind fun s => (ignoresLog_connection ..).bind fun c =>
      ignoresLog_sendQuery ..

lemma ignoresLog_execute (d : Driver σ) (q : Query) : IgnoresLog (execute d q) := by
  rw [execute]
  split_ifs
  · exact (IgnoresLog.ofExcept _).bind fun s => (ignoresLog_connection ..).bind fun c =>
      ignoresLog_sendExecute ..
  · exact .fail _

/-- An insertion asks for the key in one of two ways, by the dialect. -/
lemma ignoresLog_insertReturning (d : Driver σ) (q : Query) :
    IgnoresLog (insertReturning d q) := by
  rw [insertReturning]
  cases q.sequence with
  | none => exact .fail _
  | some sequence =>
    have hquery (c : Connection) (s : Statement) :
        IgnoresLog (sendQuery d .insert c s >>= fun rows => Pure.pure (keyOf sequence rows)) :=
      (ignoresLog_sendQuery d .insert c s).bind fun rows => .pure _
    have hexecute (c : Connection) (s : Statement) :
        IgnoresLog (sendExecute d .insert c s >>= fun _ =>
          Action.attempt (d.lastInsertId c (some sequence)) (.lastInsertId c (some sequence))) :=
      (ignoresLog_sendExecute d .insert c s).bind fun _ => .attempt ..
    refine (IgnoresLog.ofExcept _).bind fun s =>
      (ignoresLog_connection d .writer none).bind fun c => ⟨fun r => ?_⟩
    rw [muted_style]
    split_ifs
    · exact (hquery c s).apply_muted r
    · exact (hexecute c s).apply_muted r

/-- Raw SQL is sent with the prefix, which both routers have. -/
lemma ignoresLog_selectRaw (d : Driver σ) (sql : String) (values : List Value) :
    IgnoresLog (selectRaw d sql values) := by
  refine ⟨fun r => ?_⟩
  simp only [selectRaw, muted_withPrefix]
  exact ((ignoresLog_connection ..).bind fun c => ignoresLog_sendQuery ..).apply_muted r

lemma ignoresLog_executeRaw (d : Driver σ) (sql : String) (values : List Value) :
    IgnoresLog (executeRaw d sql values) := by
  refine ⟨fun r => ?_⟩
  simp only [executeRaw, muted_withPrefix]
  exact ((ignoresLog_connection ..).bind fun c => ignoresLog_sendExecute ..).apply_muted r

end Router

/-- **Every operation ignores the log.** -/
theorem Operation.ignoresLog (d : Driver σ) (o : Operation) : (o.run d).IgnoresLog := by
  cases o with
  | writer name | reader name => exact (Router.ignoresLog_connection ..).bind fun _ => .pure _
  | begin => exact (Router.ignoresLog_begin d).bind fun _ => .pure _
  | commit => exact (Router.ignoresLog_commit d).bind fun _ => .pure _
  | rollback => exact (Router.ignoresLog_rollback d).bind fun _ => .pure _
  | disconnect => exact Router.ignoresLog_disconnect.bind fun _ => .pure _
  | select q => exact (Router.ignoresLog_select d q).bind fun _ => .pure _
  | execute q => exact (Router.ignoresLog_execute d q).bind fun _ => .pure _
  | insertReturning q => exact (Router.ignoresLog_insertReturning d q).bind fun _ => .pure _
  | selectRaw sql values => exact (Router.ignoresLog_selectRaw ..).bind fun _ => .pure _
  | executeRaw sql values => exact (Router.ignoresLog_executeRaw ..).bind fun _ => .pure _

/-! ## Sessions that ignore the log -/

/-- A step on the muted router. -/
def Step.muted (m : Step σ) : Step σ :=
  ⟨m.before.muted, m.operation, m.answer, m.after.muted⟩

namespace Session

/-- Whether a session does not choose by the log, nor by whether statements are logged. -/
def IgnoresLog : Session σ α → Prop
  | .finish _ => True
  | .call _ next => ∀ x, (next x).IgnoresLog
  | .look next => ∀ r, next r.muted = next r ∧ (next r).IgnoresLog
  | .meanwhile _ next => next.IgnoresLog
  | .transaction body next => body.IgnoresLog ∧ ∀ x, (next x).IgnoresLog

/-- **A session runs in the same way on a muted router.** -/
theorem run_muted (d : Driver σ) {s : Session σ α} (h : s.IgnoresLog) :
    Action.IgnoresLog (s.run d) := by
  induction s with
  | finish outcome => exact .ofExcept outcome
  | call o next ih =>
    refine ⟨fun r => ?_⟩
    simp only [run, (o.ignoresLog d).apply_muted r]
    exact (ih _ (h _)).apply_muted _
  | look next ih =>
    refine ⟨fun r => ?_⟩
    simp only [run, (h r).1]
    exact (ih r (h r).2).apply_muted r
  | meanwhile change next ih =>
    refine ⟨fun r => ?_⟩
    exact (ih h).apply_muted (r.inWorld change)
  | transaction body next ihbody ihnext =>
    refine ⟨fun r => ?_⟩
    simp only [run, (Router.ignoresLog_transaction d (ihbody h.1)).apply_muted r]
    exact (ihnext _ (h.2 _)).apply_muted _

/-- **Step by step.** -/
theorem steps_muted (d : Driver σ) {s : Session σ α} (h : s.IgnoresLog) (r : Router σ) :
    s.steps d r.muted = (s.steps d r).map Step.muted := by
  have hstep (o : Operation) (r : Router σ) : o.step d r.muted = (o.step d r).muted := by
    simp only [Operation.step, (o.ignoresLog d).apply_muted r, Step.muted]
  induction s generalizing r with
  | finish outcome => rfl
  | call o next ih =>
    simp only [steps, List.map_cons, hstep o r, (o.ignoresLog d).apply_muted r]
    rw [ih _ (h _)]
  | look next ih =>
    simp only [steps, (h r).1]
    exact ih r (h r).2 r
  | meanwhile change next ih => exact ih h (r.inWorld change)
  | transaction body next ihbody ihnext =>
    simp only [steps, List.map_cons, hstep .begin r, (Router.ignoresLog_begin d).apply_muted r]
    rcases Router.begin d r with ⟨begun, r₁⟩
    cases begun with
    | error e => simp only [ihnext _ (h.2 _)]
    | ok c =>
      simp only [ihbody h.1, (run_muted d h.1).apply_muted r₁, hstep,
        (Router.ignoresLog_conclude d _).apply_muted, ihnext _ (h.2 _), List.map_append,
        List.map_cons]

end Session

end SqlWeave
