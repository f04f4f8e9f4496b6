import Mathlib.Data.List.Induction
import SqlWeave.Proofs.Routing.Sound
import SqlWeave.Router.Scripted

/-!
# Unfinished transactions

The pin is taken off before the driver is asked to end a transaction.  So outside of a transaction a
connection may be kept on which the driver still has one open: but then it was told to end it, and
failed.  No other connection is used outside of a transaction while one is open on it.

* `standing` — how far the calls on a connection have brought its transaction.
* `RunsPinned` — the invariant: a transaction that nobody tried to end is on the pinned connection.
* `unfinished_transactions_failed_to_end` — around every step of a session.
* `failed_commit_leaves_transaction` — that a failure leaves a transaction open does happen.
-/

namespace SqlWeave

variable {σ α : Type} {d : Driver σ} {t : Topology} {r r₁ r' : Router σ}

/-! ## The transaction of a connection -/

/-- How the transaction of a connection stands with its driver. -/
inductive Standing where
  /-- None was begun, or the last one was committed or rolled back. -/
  | closed
  /-- One was begun, and nothing was done to end it. -/
  | running
  /-- One was begun, and whatever was done to end it failed. -/
  | abandoned
  deriving DecidableEq, Repr

/-- The connection on which a call begins or ends a transaction. -/
def Event.marks : Event → Option Connection
  | .begin c _ | .commit c _ | .rollback c _ => some c
  | _ => none

/-- Whether a call fails to end a transaction on the connection of a serial number. -/
def Event.failsToEnd (serial : Nat) : Event → Bool
  | .commit c ok | .rollback c ok => c.serial = serial && !ok
  | _ => false

namespace Standing

/-- After the transaction was to be ended. -/
def ended (s : Standing) (ok : Bool) : Standing :=
  if ok ∨ s = .closed then .closed else .abandoned

/-- After a call, for the connection of a serial number. -/
def after (serial : Nat) (s : Standing) : Event → Standing
  | .begin c ok => if c.serial = serial ∧ ok then .running else s
  | .commit c ok | .rollback c ok => if c.serial = serial then s.ended ok else s
  | _ => s

/-- No transaction is running after a call that was to end it. -/
lemma after_ending_ne_running {o : Operation} {c : Connection} {ok : Bool} {e : Event}
    (h : Ending c ok o e) (s : Standing) : s.after c.serial e ≠ .running := by
  have hended : s.ended ok ≠ .running := by
    simp only [ended]
    split_ifs <;> simp
  cases h with
  | commit => simpa [after] using hended
  | rollback => simpa [after] using hended

/-- Calls on other connections do not count. -/
lemma after_of_marks {serial : Nat} {e : Event} (s : Standing)
    (h : ∀ c, e.marks = some c → c.serial ≠ serial) : s.after serial e = s := by
  cases e with
  | begin c ok => exact if_neg fun hc => h c rfl hc.1
  | commit c ok => exact if_neg (h c rfl)
  | rollback c ok => exact if_neg (h c rfl)
  | _ => rfl

/-- What was not abandoned before a call, but is after it, the call failed to end. -/
lemma failsToEnd_of_after {serial : Nat} {s : Standing} {e : Event}
    (h : s.after serial e = .abandoned) : s = .abandoned ∨ e.failsToEnd serial = true := by
  have hended (c : Connection) (ok : Bool)
      (hc : (if c.serial = serial then s.ended ok else s) = .abandoned) :
      s = .abandoned ∨ (c.serial = serial && !ok) = true := by
    split_ifs at hc with hserial
    · cases ok with
      | true => cases hc
      | false => exact .inr (by simp [hserial])
    · exact .inl hc
  cases e with
  | begin c ok =>
    simp only [after] at h
    split_ifs at h
    exact .inl h
  | commit c ok => exact hended c ok h
  | rollback c ok => exact hended c ok h
  | _ => exact .inl h

end Standing

/-- How the transaction on the connection of a serial number stands after some calls. -/
def standing (events : List Event) (serial : Nat) : Standing :=
  events.foldl (Standing.after serial) .closed

/-- The last call decides from what the others have left. -/
lemma standing_concat (events : List Event) (e : Event) (serial : Nat) :
    standing (events ++ [e]) serial = (standing events serial).after serial e :=
  List.foldl_append ..

/-- Calls on other connections leave a transaction as it stands. -/
lemma standing_append_of_marks {events calls : List Event} {serial : Nat}
    (h : ∀ e ∈ calls, ∀ c, e.marks = some c → c.serial ≠ serial) :
    standing (events ++ calls) serial = standing events serial := by
  induction calls using List.reverseRecOn with
  | nil => rw [List.append_nil]
  | append_singleton calls e ih =>
    rw [← List.append_assoc, standing_concat, Standing.after_of_marks _ (h e (by simp))]
    exact ih fun e' he' => h e' (List.mem_append_left _ he')

/-- A transaction is abandoned by a call of its own that failed. -/
lemma exists_failsToEnd_of_abandoned {events : List Event} {serial : Nat}
    (h : standing events serial = .abandoned) : ∃ e ∈ events, e.failsToEnd serial = true := by
  induction events using List.reverseRecOn with
  | nil => cases h
  | append_singleton events e ih =>
    rw [standing_concat] at h
    rcases Standing.failsToEnd_of_after h with hbefore | hfails
    · obtain ⟨e', he', hfails⟩ := ih hbefore
      exact ⟨e', List.mem_append_left _ he', hfails⟩
    · exact ⟨e, by simp, hfails⟩

/-- Whether a connection is free for other use, so far as can be known: its driver has no
transaction open on it, or has failed to end it. -/
def Connection.Released (c : Connection) (events : List Event) : Prop :=
  standing events c.serial = .closed ∨
    standing events c.serial = .abandoned ∧ ∃ e ∈ events, e.failsToEnd c.serial = true

/-- What is not running is closed, or abandoned after a call that failed to end it. -/
lemma Connection.released_of_ne_running {c : Connection} {events : List Event}
    (h : standing events c.serial ≠ .running) : c.Released events := by
  cases hstanding : standing events c.serial with
  | closed => exact .inl hstanding
  | running => exact absurd hstanding h
  | abandoned => exact .inr ⟨hstanding, exists_failsToEnd_of_abandoned hstanding⟩

/-- Whether outside of a transaction every connection that is kept is free for other use. -/
def Router.Settled (r : Router σ) : Prop :=
  r.inTransaction = false → ∀ i c, r.Keeps i c → c.Released r.events

/-! ## What runs is pinned -/

/-- On the connections that are kept, only the transaction of the pinned one is running.  New
connections have new numbers. -/
structure RunsPinned (r : Router σ) : Prop where
  numbered : ∀ e ∈ r.events, ∀ c, e.marks = some c → c.serial ≤ r.opened
  running : ∀ {i c}, r.Keeps i c → standing r.events c.serial = .running →
    ∃ p, r.pinned = some p ∧ p.serial = c.serial

/-- A connection that is kept is one of those opened so far. -/
lemma Sound.serial_le (h : Sound t r) {i : Nat} {c : Connection} (hkeeps : r.Keeps i c) :
    c.serial ≤ r.opened := by
  obtain ⟨-, n, -, hopened⟩ := h.kept hkeeps
  have hlt := (List.getElem?_eq_some_iff.mp hopened.opening).1
  rw [h.counted] at hlt
  omega

namespace RunsPinned

/-- In a new router nothing has been opened, so nothing runs. -/
theorem ofTopology {world : σ} (h : Router.ofTopology t world = .ok r) : RunsPinned r := by
  obtain ⟨hevents, hkept⟩ := Router.untouched h
  exact ⟨by simp [hevents], fun hkeeps => absurd hkeeps (hkept _ _)⟩

/-- No call so far was on a connection with a number that is not given yet. -/
lemma standing_of_lt (h : RunsPinned r) {serial : Nat} (hlt : r.opened < serial) :
    standing r.events serial = .closed := by
  have hstanding : standing ([] ++ r.events) serial = standing [] serial := by
    refine standing_append_of_marks fun e he c hc => ?_
    have hle := h.numbered e he c hc
    omega
  exact hstanding

/-- Calls that neither begin nor end a transaction do not matter, nor do new connections. -/
lemma idle (h : RunsPinned r) {calls : List Event} (hevents : r₁.events = r.events ++ calls)
    (hcalls : ∀ e ∈ calls, e.marks = none) (hpinned : r₁.pinned = r.pinned)
    (hopened : r.opened ≤ r₁.opened)
    (hkeeps : ∀ {i c}, r₁.Keeps i c → r.Keeps i c ∨ r.opened < c.serial) : RunsPinned r₁ where
  numbered e he c hc := by
    rw [hevents] at he
    rcases List.mem_append.mp he with he | he
    · exact Nat.le_trans (h.numbered e he c hc) hopened
    · rw [hcalls e he] at hc
      cases hc
  running := by
    intro i c hkept hrunning
    rw [hevents, standing_append_of_marks fun e he c hc => by rw [hcalls e he] at hc; cases hc]
      at hrunning
    rw [hpinned]
    rcases hkeeps hkept with hkept | hnew
    · exact h.running hkept hrunning
    · rw [h.standing_of_lt hnew] at hrunning
      cases hrunning

/-- A call that begins or ends a transaction, and what becomes of the pin with it. -/
lemma mark (h : RunsPinned r) {c : Connection} {e : Event} {pin : Option Connection} {world : σ}
    {log : List LogRecord} (hmarks : e.marks = some c) (hserial : c.serial ≤ r.opened)
    (hpin : ∀ {i c'}, r.Keeps i c' → (standing r.events c'.serial).after c'.serial e = .running →
      ∃ p, pin = some p ∧ p.serial = c'.serial) :
    RunsPinned { r with
      world := world
      pinned := pin
      events := r.events ++ [e]
      log := log } where
  numbered e' he' c' hc' := by
    rcases List.mem_append.mp he' with he' | he'
    · exact h.numbered e' he' c' hc'
    · rw [List.mem_singleton.mp he', hmarks] at hc'
      exact Option.some.inj hc' ▸ hserial
  running hkeeps hrunning := by
    rw [standing_concat] at hrunning
    exact hpin hkeeps hrunning

lemma reach {role : Role} {name : Option String} {x : Except RouteError Connection}
    (h : RunsPinned r) (hreach : Router.Reach r role name (x, r₁)) : RunsPinned r₁ := by
  have hprobe {e : Event} (he : e.IsProbe) : e.marks = none := by
    cases e <;> first | rfl | cases he.1
  cases hreach with
  | pinned | unpicked => exact h
  | failed _ _ htrail =>
    exact h.idle rfl (fun e he => hprobe (htrail e he)) rfl (Nat.le_refl _) .inl
  | alive => exact h.idle rfl (by simp [Event.marks]) rfl (Nat.le_refl _) .inl
  | opened _ _ _ htrail =>
    refine h.idle rfl (fun e he => ?_) rfl (Nat.le_succ _) fun hkeeps => ?_
    · rcases List.mem_append.mp he with he | he
      · exact hprobe (htrail e he)
      · rw [List.mem_singleton.mp he]
        rfl
    · rcases Router.keeps_of_modify rfl hkeeps with ⟨-, rfl⟩ | hkept
      · exact .inr (Nat.lt_succ_self _)
      · exact .inl hkept

/-- **Every operation keeps it so** that what runs is pinned. -/
theorem course {o : Operation} {answer : Except RouteError Answer} (hsound : Sound t r)
    (h : RunsPinned r) (hcourse : Course r o (answer, r')) : RunsPinned r' := by
  cases hcourse with
  | misplaced | refused => exact h
  | unreached _ _ hreach | handed _ _ hreach => exact h.reach hreach
  | @begun c _ _ _ _ hpin hreach =>
    have hserial := (hsound.reach hreach).serial_le (hsound.reached hreach).1
    refine (h.reach hreach).mark rfl hserial fun {_ c'} hkeeps hrunning => ?_
    -- What runs is the transaction that was begun: nothing was pinned, so nothing ran before.
    by_cases hsame : c.serial = c'.serial
    · exact ⟨c, rfl, hsame⟩
    · rw [Standing.after_of_marks _ (by rintro _ ⟨⟩; exact hsame)] at hrunning
      obtain ⟨p, hp, -⟩ := (h.reach hreach).running hkeeps hrunning
      rw [hreach.pinned_eq, hpin] at hp
      cases hp
  | unbegun _ hpin hreach =>
    have hserial := (hsound.reach hreach).serial_le (hsound.reached hreach).1
    refine (h.reach hreach).mark rfl hserial fun hkeeps hrunning => ?_
    rw [Standing.after, if_neg (by simp)] at hrunning
    exact (h.reach hreach).running hkeeps hrunning
  | @sent _ _ _ _ _ _ calls _ _ _ hreach hsent =>
    have hmarks : ∀ e ∈ calls, e.marks = none := by cases hsent <;> simp [Event.marks]
    exact (h.reach hreach).idle rfl hmarks rfl (Nat.le_refl _) .inl
  | @ended c _ e _ _ _ hkind hpin =>
    have hmarks : e.marks = some c := by cases hkind <;> rfl
    refine h.mark hmarks (hsound.serial_le (hsound.pinned hpin).2) fun {_ c'} hkeeps hrunning => ?_
    -- Only the pinned one could be running, and it is closed or abandoned by the call.
    by_cases hsame : c.serial = c'.serial
    · rw [← hsame] at hrunning
      exact absurd hrunning (Standing.after_ending_ne_running hkind _)
    · rw [Standing.after_of_marks _ (by rw [hmarks]; rintro _ ⟨⟩; exact hsame)] at hrunning
      obtain ⟨p, hp, hserial⟩ := h.running hkeeps hrunning
      obtain rfl := Option.some.inj (hpin.symm.trans hp)
      exact absurd hserial hsame
  | disconnected =>
    exact ⟨h.numbered, fun hkeeps => absurd hkeeps (Router.not_keeps (by simp) _ _)⟩

/-- The world may change between two steps; what runs is told by the calls. -/
lemma lull (h : RunsPinned r) (hlull : Lull r r') : RunsPinned r' := by
  obtain ⟨world, notes, rfl, -⟩ := hlull
  exact ⟨h.numbered, h.running⟩

/-- Outside of a transaction nothing runs on a connection that is kept. -/
lemma settled (h : RunsPinned r) : r.Settled := by
  intro hfree i c hkeeps
  refine c.released_of_ne_running fun hrunning => ?_
  obtain ⟨p, hp, -⟩ := h.running hkeeps hrunning
  rw [Router.inTransaction, hp] at hfree
  cases hfree

/-- Outside of a transaction a connection that is reached is free for use. -/
lemma released (h : RunsPinned r) {role : Role} {name : Option String} {c : Connection}
    (hfree : r.inTransaction = false) (hreach : Router.Reach r role name (.ok c, r₁)) :
    c.Released r.events := by
  cases hreach with
  | pinned hpin => rw [Router.inTransaction, hpin] at hfree; cases hfree
  | alive _ _ hnode hkept => exact h.settled hfree _ _ ⟨_, hnode, hkept⟩
  | opened => exact .inl (h.standing_of_lt (Nat.lt_succ_self _))

end RunsPinned

/-- A router is sound and what runs is pinned, around every step of a session. -/
lemma Session.runsPinned {world : σ} (h : Router.ofTopology t world = .ok r) (d : Driver σ)
    (s : Session σ α) :
    (∀ m ∈ s.steps d r, RunsPinned m.before ∧ RunsPinned m.after) ∧ RunsPinned (s.run d r).2 := by
  have hlinked := s.linked d r
  have hsound := (Session.sound h d s).1
  refine hlinked.invariant (fun hlull h => h.lull hlull) (fun m hm hbefore => ?_) (.ofTopology h)
  exact hbefore.course (hsound m hm).1 (hlinked.course hm)

/-- **A transaction that is left unfinished could not be ended.**  Around every step of a session,
outside of a transaction, every connection that is kept has no transaction open at its driver,
unless a commit or a rollback failed on that connection.  Whatever is sent while no transaction is
open, a begin included, goes to such a connection or to a new one. -/
theorem unfinished_transactions_failed_to_end {world : σ} (h : Router.ofTopology t world = .ok r)
    (d : Driver σ) (s : Session σ α) :
    (∀ m ∈ s.steps d r, m.before.Settled ∧ m.after.Settled ∧
      (m.before.inTransaction = false → ∃ trail commands,
        m.after.events = m.before.events ++ trail ++ commands ∧
        (∀ e ∈ trail, e.commanded = none) ∧
        ∀ e ∈ commands, ∃ c, e.commanded = some c ∧ c.Released m.before.events)) ∧
    (s.run d r).2.Settled := by
  obtain ⟨hsteps, hend⟩ := Session.runsPinned h d s
  refine ⟨fun m hm => ?_, hend.settled⟩
  obtain ⟨hbefore, hafter⟩ := hsteps m hm
  refine ⟨hbefore.settled, hafter.settled, fun hfree => ?_⟩
  obtain ⟨r₁, trail, commands, htrail, hprobes, hevents, hcommands, -⟩ :=
    ((s.linked d r).course hm).commands
  rw [htrail] at hevents
  refine ⟨trail, commands, hevents, hprobes, fun e he => ?_⟩
  obtain ⟨-, c, hc, ⟨hpin, -⟩ | ⟨role, name, -, hreach⟩⟩ := hcommands e he
  · rw [Router.inTransaction, hpin] at hfree
    cases hfree
  · exact ⟨c, hc, hbefore.released hfree hreach⟩

/-- Where a body fails its transaction is rolled back, and its connection serves what comes next. -/
theorem unfinished_transactions_failed_to_end_rolled_back :
    let d := Script.driver Unit
    let s : Session (Script × Unit) Unit :=
      .transaction (.finish (.error .noReader)) fun _ =>
        .call (.executeRaw "x" []) fun _ => .finish (.ok ())
    ∃ r, Router.ofTopology .pair (Script.smooth, ()) = .ok r ∧
      ∃ m ∈ s.steps d r, m.before.inTransaction = false ∧
        (∃ i c, m.before.Keeps i c ∧ c.Released m.before.events) ∧
        let calls := m.after.events.drop m.before.events.length
        calls.map (·.commanded.isSome) = [false, true] ∧
          ∀ e ∈ calls, ∀ c, e.commanded = some c → c.Released m.before.events := by
  intro d s
  obtain ⟨r, hr, m, hm, hfree, ⟨n, hn, hkept⟩, hcalls⟩ : ∃ r,
      Router.ofTopology .pair (Script.smooth, ()) = .ok r ∧
        ∃ m ∈ s.steps d r, m.before.inTransaction = false ∧
          (∃ n ∈ m.before.nodes, n.connection.isSome = true) ∧
          (m.after.events.drop m.before.events.length).map (·.commanded.isSome) = [false, true] :=
    ⟨_, rfl, by decide +kernel⟩
  obtain ⟨hsettled, -, hsent⟩ := (unfinished_transactions_failed_to_end hr d s).1 m hm
  obtain ⟨i, hi⟩ := List.mem_iff_getElem?.mp hn
  obtain ⟨c, hc⟩ := Option.isSome_iff_exists.mp hkept
  obtain ⟨trail, commands, hevents, htrail, hcommands⟩ := hsent hfree
  have hkeeps : m.before.Keeps i c := ⟨n, hi, hc⟩
  refine ⟨r, hr, m, hm, hfree, ⟨i, c, hkeeps, hsettled hfree i c hkeeps⟩, hcalls, ?_⟩
  rw [hevents, List.append_assoc, List.drop_left]
  intro e he c' hc'
  rcases List.mem_append.mp he with he | he
  · rw [htrail e he] at hc'
    cases hc'
  · obtain ⟨c₁, hc₁, hreleased⟩ := hcommands e he
    obtain rfl := Option.some.inj (hc₁.symm.trans hc')
    exact hreleased

/-- A commit that fails leaves the transaction open on a connection that is kept, and a statement
that has nothing to do with it, and the next begin, are sent there. -/
theorem failed_commit_leaves_transaction :
    let d := Script.driver Unit
    let s : Session (Script × Unit) Unit :=
      .meanwhile (fun w => (w.1.setFailure .commit "lost", ())) <|
        .transaction (.finish (.ok ())) fun _ => .call (.executeRaw "x" []) fun _ =>
          .call .begin fun _ => .finish (.ok ())
    ∃ r, Router.ofTopology .pair (Script.smooth, ()) = .ok r ∧
      ((s.steps d r).drop 2).length = 2 ∧
      ∀ m ∈ (s.steps d r).drop 2, m.before.inTransaction = false ∧
        ∃ n ∈ m.before.nodes, ∃ c ∈ n.connection, standing m.before.events c.serial ≠ .closed ∧
          (m.after.events.getLast?.bind Event.commanded).map (·.serial) = some c.serial :=
  ⟨_, rfl, by decide +kernel, by decide +kernel⟩

end SqlWeave
