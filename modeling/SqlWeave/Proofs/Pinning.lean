import SqlWeave.Proofs.Routing.Sound
import SqlWeave.Router.Scripted

/-!
# An open transaction keeps to its connection

Once a transaction has begun, its connection serves everything until it is ended: it is handed out
for every role and name, and every statement goes to it.  Nothing is opened or asked whether it
answers, no connection is given up, and no turn is taken.

* `Course.of_pinned` — one operation while a transaction is open.
* `open_transaction_serves_everything` — all operations of a session from the begin of a
  transaction to its end.
-/

namespace SqlWeave

variable {σ α : Type} {d : Driver σ} {r r' : Router σ}

/-- The connection on which a statement is run. -/
def Event.ran : Event → Option Connection
  | .execute c _ _ | .query c _ _ | .lastInsertId c _ _ => some c
  | _ => none

lemma Sent.ran {c : Connection} {s : Statement} {calls : List Event} (h : Sent c s calls) :
    ∀ e ∈ calls, e.ran = some c := by
  cases h <;> simp [Event.ran]

/-! ## One operation -/

/-- While a transaction is open, an operation that does not end it does nothing but run statements
on its connection. -/
lemma Course.of_pinned {o : Operation} {answer : Except RouteError Answer} {c : Connection}
    (hpin : r.pinned = some c) (hends : o.ends = false) (h : Course r o (answer, r')) :
    (o.handsOut → answer = .ok (.connection c)) ∧
      ∃ calls, (∀ e ∈ calls, e.ran = some c) ∧
        (o.sends → (∃ e, answer = .error (.query e)) ∨ ∃ s, Sent c s calls) ∧
        r' = { r with world := r'.world, events := r.events ++ calls, log := r'.log } := by
  have hsame : r = { r with world := r.world, events := r.events ++ [], log := r.log } := by simp
  have hnone : ∀ e ∈ ([] : List Event), e.ran = some c := by simp
  -- With a pin, what is reached is the pin, and what would begin or reopen has no case.
  cases h with
  | misplaced hkind =>
    rcases hkind with ⟨rfl, -⟩ | ⟨rfl | rfl, -⟩
    · exact ⟨nofun, [], hnone, nofun, hsame⟩
    · cases hends
    · cases hends
  | refused hkind =>
    exact ⟨by simp [Operation.handsOut_of_sends hkind], [], hnone, fun _ => .inl ⟨_, rfl⟩, hsame⟩
  | unreached _ _ hreach => cases (hreach.of_pinned hpin).1
  | handed hkind _ hreach =>
    obtain ⟨hc, rfl⟩ := hreach.of_pinned hpin
    refine ⟨fun _ => by rw [Except.ok.inj hc], [], hnone, fun hsends => ?_, hsame⟩
    rw [Operation.handsOut_of_sends hsends] at hkind
    cases hkind
  | begun _ hfree | unbegun _ hfree =>
    rw [hpin] at hfree
    cases hfree
  | sent hkind _ hreach hsent =>
    obtain ⟨hc, rfl⟩ := hreach.of_pinned hpin
    obtain rfl := Except.ok.inj hc
    exact ⟨by simp [Operation.handsOut_of_sends hkind], _, hsent.ran, fun _ => .inr ⟨_, hsent⟩, rfl⟩
  | ended hkind => cases hkind <;> cases hends
  | disconnected hkind => subst hkind; cases hends

/-- What begins a transaction sends the begin last, and pins the connection that it was sent to. -/
lemma Course.of_begun {c : Connection} (h : Course r .begin (.ok (.connection c), r')) :
    r'.pinned = some c ∧ ∃ trail, (∀ e ∈ trail, e.commanded = none) ∧
      r'.events = r.events ++ trail ++ [.begin c true] := by
  cases h with
  | begun _ _ hreach =>
    obtain ⟨trail, hevents, htrail⟩ := hreach.events_eq
    exact ⟨rfl, trail, htrail, by rw [← hevents]⟩
  | handed hkind | sent hkind | ended hkind => cases hkind

/-! ## From the begin to the end -/

/-- What becomes of a router while nothing but statements are run on a connection. -/
def Serves (c : Connection) (r r' : Router σ) : Prop :=
  ∃ calls, (∀ e ∈ calls, e.ran = some c) ∧
    r' = { r with world := r'.world, events := r.events ++ calls, log := r'.log }

lemma Serves.refl (c : Connection) (r : Router σ) : Serves c r r :=
  ⟨[], by simp, by simp⟩

lemma Serves.lull {c : Connection} {r₁ : Router σ} (h : Serves c r r') (hlull : Lull r' r₁) :
    Serves c r r₁ := by
  obtain ⟨calls, hcalls, hr'⟩ := h
  obtain ⟨world, notes, rfl, -⟩ := hlull
  refine ⟨calls, hcalls, ?_⟩
  rw [hr']

lemma Serves.trans {c : Connection} {r₁ : Router σ} (h : Serves c r r') (h' : Serves c r' r₁) :
    Serves c r r₁ := by
  obtain ⟨calls, hcalls, hr'⟩ := h
  obtain ⟨calls', hcalls', hr₁⟩ := h'
  refine ⟨calls ++ calls', ?_, ?_⟩
  · exact fun e he => (List.mem_append.mp he).elim (hcalls e) (hcalls' e)
  · rw [hr₁, hr', List.append_assoc]

lemma Serves.pinned_eq {c : Connection} (h : Serves c r r') : r'.pinned = r.pinned := by
  obtain ⟨_, -, hr'⟩ := h
  rw [hr']

/-- Operations that do not end the open transaction are served by its connection. -/
lemma Linked.serves {c : Connection} {steps : List (Step σ)} (h : Linked d r steps r')
    (hpin : r.pinned = some c) (hsteps : ∀ m ∈ steps, m.operation.ends = false) :
    (∀ m ∈ steps, Serves c r m.before ∧ Serves c r m.after) ∧ Serves c r r' := by
  refine h.invariant (fun hlull hserves => hserves.lull hlull) (fun m hm hbefore => ?_) (.refl c r)
  have hpinned : m.before.pinned = some c := hbefore.pinned_eq.trans hpin
  obtain ⟨-, calls, hcalls, -, hafter⟩ := (h.course hm).of_pinned hpinned (hsteps m hm)
  exact hbefore.trans ⟨calls, hcalls, hafter⟩

/-- **An open transaction serves everything.**  From the begin of a transaction to the operation
that ends it, every operation that asks for a connection is given the one the begin was sent to, for
whatever role and name; every statement that is not refused is run on it; and all that becomes of
the router, beside its log, is that such statements are run. -/
theorem open_transaction_serves_everything (d : Driver σ) (s : Session σ α) (r : Router σ)
    {before span rest : List (Step σ)} {opening : Step σ} {c : Connection}
    (hsteps : s.steps d r = before ++ opening :: (span ++ rest))
    (hbegin : opening.operation = .begin) (hbegun : opening.answer = .ok (.connection c))
    (hspan : ∀ m ∈ span, m.operation.ends = false) :
    (∃ trail, (∀ e ∈ trail, e.commanded = none) ∧
      opening.after.events = opening.before.events ++ trail ++ [.begin c true]) ∧
    ∀ m ∈ span,
      (m.operation.handsOut → m.answer = .ok (.connection c)) ∧
      (m.operation.sends → (∃ e, m.answer = .error (.query e)) ∨
        ∃ st calls, Sent c st calls ∧ m.after.events = m.before.events ++ calls) ∧
      ∃ calls, (∀ e ∈ calls, e.ran = some c) ∧ m.after = { opening.after with
        world := m.after.world
        events := opening.after.events ++ calls
        log := m.after.log } := by
  have hlinked := s.linked d r
  rw [hsteps] at hlinked
  obtain ⟨r₁, -, hopening⟩ := hlinked.split
  have hcourse := hopening.course List.mem_cons_self
  rw [hbegin, hbegun] at hcourse
  obtain ⟨hpin, trail, htrail, hevents⟩ := hcourse.of_begun
  refine ⟨⟨trail, htrail, hevents⟩, fun m hm => ?_⟩
  cases hopening with
  | cons _ hafter =>
    obtain ⟨r₂, hlinkedSpan, -⟩ := hafter.split
    have hserves := (hlinkedSpan.serves hpin hspan).1 m hm
    have hpinned : m.before.pinned = some c := hserves.1.pinned_eq.trans hpin
    obtain ⟨hhanded, calls, -, hsent, hm'⟩ :=
      (hlinkedSpan.course hm).of_pinned hpinned (hspan m hm)
    refine ⟨hhanded, fun hsends => (hsent hsends).imp_right ?_, hserves.2⟩
    rintro ⟨st, hst⟩
    exact ⟨st, calls, hst, by rw [hm']⟩

/-- Neither a name that no node has, nor a server that no longer answers, nor a failure, nor a
transaction inside of it comes between a transaction and its connection. -/
theorem open_transaction_serves_unknown_names :
    let d := Script.driver Unit
    let s : Session (Script × Unit) Unit :=
      .call .begin fun _ => .call (.slave (some "nobody")) fun _ =>
        .meanwhile (fun w => ((w.1.setDead "mysql:m" true).setFailure .query "lost", ())) <|
          .call (.selectRaw "q" []) fun _ => .transaction (.finish (.ok ())) fun _ =>
            .call (.executeRaw "x" []) fun _ => .call .master fun _ =>
              .call .commit fun _ => .finish (.ok ())
    ∃ r opening ending span c, Router.ofTopology .pair (Script.smooth, ()) = .ok r ∧
      s.steps d r = [] ++ opening :: (span ++ [ending]) ∧ opening.operation = .begin ∧
      opening.answer = .ok (.connection c) ∧
      span.map (·.operation.handsOut) = [true, false, false, false, true] ∧
      ∀ m ∈ span, m.operation.ends = false ∧
        (m.operation.handsOut → m.answer = .ok (.connection c)) ∧
        ∃ calls, (∀ e ∈ calls, e.ran = some c) ∧
          m.after.events = opening.after.events ++ calls := by
  intro d s
  obtain ⟨r, opening, ending, span, c, hr, hsteps, hbegin, hbegun, hkinds, hspan⟩ :
      ∃ r opening ending span c, Router.ofTopology .pair (Script.smooth, ()) = .ok r ∧
        s.steps d r = [] ++ opening :: (span ++ [ending]) ∧ opening.operation = .begin ∧
        opening.answer = .ok (.connection c) ∧
        span.map (·.operation.handsOut) = [true, false, false, false, true] ∧
        ∀ m ∈ span, m.operation.ends = false :=
    ⟨_, _, _, [_, _, _, _, _], _, rfl, rfl, rfl, rfl, rfl, by decide +kernel⟩
  refine ⟨r, opening, ending, span, c, hr, hsteps, hbegin, hbegun, hkinds, fun m hm => ?_⟩
  obtain ⟨hhanded, -, calls, hcalls, hafter⟩ :=
    (open_transaction_serves_everything d s r hsteps hbegin hbegun hspan).2 m hm
  exact ⟨hspan m hm, hhanded, calls, hcalls, by rw [hafter]⟩

end SqlWeave
