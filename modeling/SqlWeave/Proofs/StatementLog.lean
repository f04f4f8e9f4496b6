import Mathlib.Data.List.Forall2
import SqlWeave.Proofs.Routing.Muted
import SqlWeave.Proofs.Routing.Sending
import SqlWeave.Proofs.Routing.Sound
import SqlWeave.Router.Scripted

/-!
# The log of statements

Five operations send statements, and each writes its record before the driver is asked.  Whatever
fails before or after that, the records of statements are an image of the statements that drivers
were given.

* `handedOver`, `statementRecords` — the statements that drivers were given, and the records of
  statements.
* `Router.Mirrored` — **the specification** for a whole run: records and statements one to one and
  in order.
* `Step.Tells` — **the specification** for one operation: nothing was handed over and nothing
  recorded, or one statement with its record.
* `Operation.tells` — every operation meets it.
* `log_mirrors_statements` — the statement for every session, with and without records.
-/

namespace SqlWeave

variable {σ α : Type} {d : Driver σ} {t : Topology} {r r₁ r' : Router σ} {o : Operation}

/-! ## Statements and records -/

/-- The statement that a call hands over to a driver, and the connection for it. -/
def Event.handed? : Event → Option (Connection × Statement)
  | .execute c s _ | .query c s _ => some (c, s)
  | _ => none

/-- The statements that drivers were given, one after another, whatever became of them. -/
def handedOver (events : List Event) : List (Connection × Statement) :=
  events.filterMap Event.handed?

/-- The records of statements, one after another. -/
def statementRecords (log : List LogRecord) : List LogRecord :=
  log.filter LogRecord.isStatement

lemma handedOver_append (events events' : List Event) :
    handedOver (events ++ events') = handedOver events ++ handedOver events' :=
  List.filterMap_append

lemma statementRecords_append (log log' : List LogRecord) :
    statementRecords (log ++ log') = statementRecords log ++ statementRecords log' :=
  List.filter_append ..

/-- Only commands hand a statement over. -/
lemma Event.handed?_of_commanded {e : Event} (h : e.commanded = none) : e.handed? = none := by
  cases e with
  | execute | query => cases h
  | _ => rfl

/-- Records of connections and transactions are not counted. -/
lemma statementRecords_eq_nil {log : List LogRecord} (h : ∀ l ∈ log, l.isStatement = false) :
    statementRecords log = [] :=
  List.filter_eq_nil_iff.mpr fun l hl => by simp [h l hl]

/-- Neither a statement nor a record of one is new. -/
structure Router.Quiet (r r' : Router σ) : Prop where
  handed : handedOver r'.events = handedOver r.events
  recorded : statementRecords r'.log = statementRecords r.log

/-! ## The specification -/

/-- Whether a record tells of a statement that was handed over on a connection. -/
def LogPolicy.Tells (p : LogPolicy) (l : LogRecord) (sent : Connection × Statement) : Prop :=
  ∃ kind, l = .statement kind sent.1.name sent.2.values.length (p.shorten sent.2.sql)

/-- **A run and its records**: each statement that was handed over has its record, in the same
order, and there is no other. -/
def Router.Mirrored (p : LogPolicy) (r : Router σ) : Prop :=
  List.Forall₂ p.Tells (statementRecords r.log) (handedOver r.events)

/-- **One step and its record.** -/
inductive Step.Tells (t : Topology) (m : Step σ) : Prop
  /-- No driver is given a statement, and nothing is recorded.  Whatever has a statement to send has
  failed. -/
  | silent (hquiet : m.before.Quiet m.after)
      (hfailed : m.operation.sends → ∃ e, m.answer = .error e)
  /-- The statement of the operation is handed over on a connection that was opened for a node, on
  the pinned one if a transaction is open, and recorded if statements are. -/
  | sent {kind : StatementKind} {s : Statement} {c : Connection} {n : Registration}
      (hprepared : m.operation.prepared m.before = .ok (some (kind, s)))
      (hhanded : handedOver m.after.events = handedOver m.before.events ++ [(c, s)])
      (hrecorded : statementRecords m.after.log = statementRecords m.before.log
        ++ (t.log.record? kind n.name s.sql s.values.length).toList)
      (hnode : t.registrations[c.node]? = some n) (hopened : c.OpenedFor n m.after.events)
      (hpinned : ∀ c', m.before.pinned = some c' → c = c')

/-! ## Where nothing is sent -/

namespace Router

namespace Quiet

lemma refl (r : Router σ) : r.Quiet r :=
  ⟨rfl, rfl⟩

/-- What is quiet in two stretches is quiet as a whole. -/
lemma trans (h : r.Quiet r₁) (h' : r₁.Quiet r') : r.Quiet r' :=
  ⟨h'.handed.trans h.handed, h'.recorded.trans h.recorded⟩

/-- The usual way to be quiet: there are calls and records, but none of a statement. -/
lemma of_append {calls : List Event} {notes : List LogRecord}
    (hevents : r'.events = r.events ++ calls) (hlog : r'.log = r.log ++ notes)
    (hcalls : ∀ e ∈ calls, e.handed? = none) (hnotes : ∀ l ∈ notes, l.isStatement = false) :
    r.Quiet r' where
  handed := by
    have hnone : handedOver calls = [] := List.filterMap_eq_nil_iff.mpr hcalls
    rw [hevents, handedOver_append, hnone, List.append_nil]
  recorded := by
    rw [hlog, statementRecords_append, statementRecords_eq_nil hnotes, List.append_nil]

/-- Where nothing is handed over and nothing recorded, the log mirrors what it mirrored before. -/
lemma mirrored {p : LogPolicy} (h : r.Quiet r') (hr : r.Mirrored p) : r'.Mirrored p := by
  rw [Mirrored, h.handed, h.recorded]
  exact hr

end Quiet

/-- Reaching a connection is quiet however it ends. -/
lemma Reach.quiet {role : Role} {name : Option String} {x : Except RouteError Connection}
    (h : Reach r role name (x, r₁)) : r.Quiet r₁ := by
  cases h with
  | pinned | unpicked => exact .refl r
  | failed hpin hpick htrail hnotes =>
    exact .of_append rfl rfl (fun e he => Event.handed?_of_commanded (htrail e he).1) hnotes
  | alive =>
    exact .of_append rfl (List.append_nil _).symm (by simp [Event.handed?]) (by simp)
  | opened hpin hpick hnode htrail hnotes =>
    refine .of_append rfl rfl (fun e he => ?_) hnotes
    rcases List.mem_append.mp he with he | he
    · exact Event.handed?_of_commanded (htrail e he).1
    · rw [List.mem_singleton.mp he]
      rfl

end Router

lemma Lull.quiet (h : Lull r r') : r.Quiet r' := by
  obtain ⟨world, notes, rfl, hnotes⟩ := h
  exact .of_append (List.append_nil _).symm rfl (by simp) hnotes

/-- An operation without a statement hands nothing over. -/
lemma Course.quiet {answer : Except RouteError Answer} (h : Course r o (answer, r'))
    (hsends : o.sends = false) : r.Quiet r' := by
  cases h with
  | misplaced => exact .refl r
  | refused hkind | sent hkind =>
    rw [hsends] at hkind
    cases hkind
  | unreached _ _ hreach | handed _ _ hreach => exact hreach.quiet
  | begun _ _ hreach hnote =>
    exact hreach.quiet.trans (.of_append rfl rfl (by simp [Event.handed?]) (by simpa using hnote))
  | unbegun _ _ hreach =>
    exact hreach.quiet.trans (.of_append rfl (List.append_nil _).symm (by simp [Event.handed?])
      (by simp))
  | ended hkind _ _ hnotes =>
    refine .of_append rfl rfl ?_ hnotes
    cases hkind <;> simp [Event.handed?]
  | disconnected _ hnotes => exact .of_append (List.append_nil _).symm rfl (by simp) hnotes

/-! ## One operation -/

/-- An operation with a statement reaches for any connection of a role. -/
lemma Operation.wanted_of_sends (h : o.sends = true) : ∃ role, o.wanted? = some (role, none) := by
  cases o with
  | writer | reader | begin | commit | rollback | disconnect => cases h
  | _ => exact ⟨_, rfl⟩

/-- Of the calls by which a statement is sent one hands it over. -/
lemma Sent.handedOver_eq {c : Connection} {s : Statement} {calls : List Event}
    (h : Sent c s calls) : handedOver calls = [(c, s)] := by
  cases h <;> rfl

/-- What the policy writes is a record of a statement, if it writes any. -/
lemma statementRecords_record? (p : LogPolicy) (kind : StatementKind) (node sql : String)
    (values : Nat) :
    statementRecords (p.record? kind node sql values).toList
      = (p.record? kind node sql values).toList := by
  rw [LogPolicy.record?]
  split_ifs <;> rfl

/-- **Every operation tells of its statement**, and of nothing else. -/
theorem Operation.tells (h : Sound t r) (d : Driver σ) (o : Operation) :
    (o.step d r).Tells t := by
  cases hp : o.prepared r with
  -- Refused: the router is as it was.
  | error e =>
    have hrun := run_of_refused d hp
    refine .silent ?_ fun _ => ⟨e, congrArg Prod.fst hrun⟩
    rw [step, hrun]
    exact .refl r
  | ok p =>
    have hsome := isSome_of_prepared hp
    cases p with
    | none =>
      refine .silent ((o.course d r).quiet hsome.symm) fun hsends => ?_
      rw [step, ← hsome] at hsends
      cases hsends
    -- A statement is sent once its connection is reached, so both ends of that are looked at.
    | some statement =>
      obtain ⟨kind, s⟩ := statement
      obtain ⟨role, hwanted⟩ := wanted_of_sends hsome.symm
      have hrun := run_of_prepared d hp hwanted
      have hreach := Router.reach_connection d role none r
      rw [Action.bind_apply] at hrun
      generalize Router.connection d role none r = result at hrun hreach
      obtain ⟨outcome, r₁⟩ := result
      cases outcome with
      | error e =>
        refine .silent ?_ fun _ => ⟨e, congrArg Prod.fst hrun⟩
        rw [step, hrun]
        exact hreach.quiet
      | ok c =>
        obtain ⟨hkeeps, -⟩ := h.reached hreach
        obtain ⟨-, n, hn, hopened⟩ := (h.reach hreach).kept hkeeps
        obtain ⟨world, calls, hsent, hafter⟩ := proceed_statement d kind c s hsome.symm r₁
        have hend : (o.step d r).after = _ := (congrArg Prod.snd hrun).trans hafter
        refine .sent hp ?_ ?_ hn ?_ fun c' hpin => ?_
        · rw [hend]
          simp only
          rw [handedOver_append, hreach.quiet.handed, hsent.handedOver_eq]
          rfl
        · rw [hend]
          simp only
          rw [statementRecords_append, hreach.quiet.recorded, statementRecords_record?,
            (h.reach hreach).topology, hopened.name]
          rfl
        · rw [hend]
          exact hopened.append calls
        · exact Except.ok.inj (hreach.of_pinned hpin).1

/-! ## Whole sessions -/

/-- A step whose statement is recorded keeps statements and records one to one. -/
lemma Step.Tells.mirrored {m : Step σ} (h : m.Tells t) (henabled : t.log.enabled = true)
    (hbefore : m.before.Mirrored t.log) : m.after.Mirrored t.log := by
  cases h with
  | silent hquiet => exact hquiet.mirrored hbefore
  | @sent kind s c n _ hhanded hrecorded _ hopened =>
    have hrecord : t.log.record? kind n.name s.sql s.values.length
        = some (.statement kind c.name s.values.length (t.log.shorten s.sql)) := by
      rw [LogPolicy.record?, if_pos henabled, hopened.name]
    rw [Router.Mirrored, hhanded, hrecorded, hrecord]
    exact List.rel_append hbefore (.cons ⟨kind, rfl⟩ .nil)

/-- A step whose statement is not recorded leaves the records as they are. -/
lemma Step.Tells.statementRecords_eq {m : Step σ} (h : m.Tells t)
    (hdisabled : t.log.enabled = false) :
    statementRecords m.after.log = statementRecords m.before.log := by
  cases h with
  | silent hquiet => exact hquiet.recorded
  | sent _ _ hrecorded =>
    rw [hrecorded, LogPolicy.record?, hdisabled, if_neg Bool.false_ne_true, Option.toList_none,
      List.append_nil]

/-- A router before its first operation. -/
lemma Router.quiet_of_ofTopology {world : σ} (h : Router.ofTopology t world = .ok r) :
    handedOver r.events = [] ∧ statementRecords r.log = [] := by
  rw [Router.ofTopology, Topology.validate_of_ofTopology h] at h
  obtain rfl := Except.ok.inj h
  exact ⟨rfl, rfl⟩

/-- **The log mirrors the statements that are sent.**  Every step of a session tells of its
statement.  So if statements are logged, records and statements are one to one at any time, and if
not, there are no records.  All else is the same in both cases: the answers, and the routers but for
the records. -/
theorem log_mirrors_statements {world : σ} (h : Router.ofTopology t world = .ok r) (d : Driver σ)
    (s : Session σ α) :
    (∀ m ∈ s.steps d r, m.Tells t) ∧
    (t.log.enabled = true → (s.run d r).2.Mirrored t.log ∧
      ∀ m ∈ s.steps d r, m.before.Mirrored t.log ∧ m.after.Mirrored t.log) ∧
    (t.log.enabled = false → statementRecords (s.run d r).2.log = [] ∧
      ∀ m ∈ s.steps d r, statementRecords m.after.log = []) ∧
    (s.IgnoresLog → Router.ofTopology t.muted world = .ok r.muted ∧
      s.run d r.muted = ((s.run d r).1, (s.run d r).2.muted) ∧
      s.steps d r.muted = (s.steps d r).map Step.muted) := by
  have hlinked := s.linked d r
  have htells : ∀ m ∈ s.steps d r, m.Tells t := by
    intro m hm
    rw [hlinked.eq_step hm]
    exact m.operation.tells ((Session.sound h d s).1 m hm).1 d
  obtain ⟨hhanded, hrecorded⟩ := Router.quiet_of_ofTopology h
  refine ⟨htells, fun henabled => ?_, fun hdisabled => ?_, fun hignores => ⟨?_, ?_, ?_⟩⟩
  · have hfirst : r.Mirrored t.log := by
      rw [Router.Mirrored, hhanded, hrecorded]
      exact .nil
    have hsteps := hlinked.invariant (fun hlull hr => hlull.quiet.mirrored hr)
      (fun m hm hbefore => (htells m hm).mirrored henabled hbefore) hfirst
    exact ⟨hsteps.2, hsteps.1⟩
  · have hsteps := hlinked.invariant (P := fun r => statementRecords r.log = [])
      (fun hlull hr => hlull.quiet.recorded.trans hr)
      (fun m hm hbefore => ((htells m hm).statementRecords_eq hdisabled).trans hbefore) hrecorded
    exact ⟨hsteps.2, fun m hm => (hsteps.1 m hm).2⟩
  · rw [Router.ofTopology_muted, h]
    rfl
  · exact (Session.run_muted d hignores).apply_muted r
  · exact Session.steps_muted d hignores r

/-- A raw select with the table prefix, and a transaction whose only change fails: two statements
and two records, the second of them of the pinned writer. -/
theorem log_mirrors_statements_failed_change :
    let t : Topology := { Topology.pair with tablePrefix := "p_" }
    let d := Script.driver Unit
    let s : Session (Script × Unit) UInt64 :=
      .call (.selectRaw "select a from \x7bpfx\x7dt" []) fun _ =>
        .transaction (.call (.executeRaw "update t set a = ?" [.int 1]) fun
          | .error e => .finish (.error e)
          | .ok _ => .finish (.ok 1)) .finish
    ∃ r, Router.ofTopology t (Script.smooth.setFailure .execute "lost", ()) = .ok r ∧
      (s.run d r).1.isOk = false ∧ (s.run d r.muted).1.isOk = false ∧
      statementRecords (s.run d r).2.log = [.statement .select "reader.r" 0 "select a from p_t",
        .statement .update "writer.master" 1 "update t set a = ?"] ∧
      (s.run d r).2.Mirrored t.log ∧ ∀ m ∈ s.steps d r, m.Tells t := by
  intro t d s
  obtain ⟨r, hr, hfailed, hrecords⟩ : ∃ r,
      Router.ofTopology t (Script.smooth.setFailure .execute "lost", ()) = .ok r ∧
        (s.run d r).1.isOk = false ∧
        statementRecords (s.run d r).2.log = [.statement .select "reader.r" 0 "select a from p_t",
          .statement .update "writer.master" 1 "update t set a = ?"] :=
    ⟨_, rfl, by decide +kernel, by decide +kernel⟩
  have hignores : s.IgnoresLog := by
    refine fun _ => ⟨fun x => ?_, fun _ => trivial⟩
    cases x <;> trivial
  obtain ⟨htells, hlogged, -, hmuted⟩ := log_mirrors_statements hr d s
  obtain ⟨-, hrun, -⟩ := hmuted hignores
  exact ⟨r, hr, hfailed, by rw [hrun]; exact hfailed, hrecords, (hlogged rfl).1, htells⟩

end SqlWeave
