import SqlWeave.Proofs.Routing.Reach

/-!
# The courses of an operation

An operation either ends before it does anything, or reaches a connection and hands it out, begins
on it or sends a statement to it, or gives the pinned connection up.

* `Operation.wanted?` — the role and the name for which an operation reaches a connection.
* `Operation.sends`, `Operation.ends` — the operations with a statement, and those that end a
  transaction.
* `Course` — everything that an operation can do.
* `Operation.course` — nothing else can happen.  All that is proved of runs rests on this.
* `Course.commands` — what an operation sends, and where.
-/

namespace SqlWeave

variable {σ : Type}

/-! ## Kinds of operations -/

namespace Operation

/-- The role and the name for which an operation reaches a connection. -/
def wanted? : Operation → Option (Role × Option String)
  | .writer name => some (.writer, name)
  | .reader name => some (.reader, name)
  | .select q => some (if q.usesWriter then .writer else .reader, none)
  | .selectRaw .. => some (.reader, none)
  | .begin | .execute _ | .insertReturning _ | .executeRaw .. => some (.writer, none)
  | .commit | .rollback | .disconnect => none

/-- Whether an operation has a statement to send. -/
def sends : Operation → Bool
  | .select _ | .execute _ | .insertReturning _ | .selectRaw .. | .executeRaw .. => true
  | _ => false

/-- Whether an operation hands a connection out. -/
def handsOut : Operation → Bool
  | .writer _ | .reader _ => true
  | _ => false

/-- An operation does one of the two at most. -/
lemma handsOut_of_sends {o : Operation} (h : o.sends = true) : o.handsOut = false := by
  cases o <;> first | rfl | cases h

/-- Whether an operation ends a transaction, well or not. -/
def ends : Operation → Bool
  | .commit | .rollback | .disconnect => true
  | _ => false

end Operation

/-! ## Sending a statement -/

/-- The calls by which a statement is sent to a connection: it is run for its rows or for its
changes, and after an insertion the key may be asked for. -/
inductive Sent (c : Connection) (s : Statement) : List Event → Prop
  | query (ok : Bool) : Sent c s [.query c s ok]
  | execute (ok : Bool) : Sent c s [.execute c s ok]
  | insert (sequence : Option String) (ok : Bool) :
      Sent c s [.execute c s true, .lastInsertId c sequence ok]

namespace Action

variable {α β γ : Type}

/-- The second action runs only if the first one has an answer; a failure passes through with the
router that it left. -/
lemma bind_apply (a : Action σ α) (f : α → Action σ β) (r : Router σ) :
    (a >>= f) r = match a r with
      | (.ok x, r) => f x r
      | (.error e, r) => (.error e, r) :=
  rfl

lemma bind_assoc (a : Action σ α) (f : α → Action σ β) (g : β → Action σ γ) :
    a >>= f >>= g = a >>= fun x => f x >>= g := by
  funext r
  simp only [bind_apply]
  rcases a r with ⟨outcome, r₁⟩
  cases outcome <;> rfl

/-- Two actions that do the same on one router may be exchanged there. -/
lemma bind_congr {a b : Action σ α} {r : Router σ} (h : a r = b r) (f : α → Action σ β) :
    (a >>= f) r = (b >>= f) r := by
  rw [bind_apply, bind_apply, h]

/-- Turning an answer into another one leaves failures and the router as they are. -/
lemma bind_pure_apply (a : Action σ α) (f : α → β) (r : Router σ) :
    (a >>= fun x => Pure.pure (f x)) r = ((a r).1.map f, (a r).2) := by
  rw [bind_apply]
  rcases a r with ⟨outcome, r₁⟩
  cases outcome <;> rfl

/-- What becomes of the router does not depend on what is made of the answer. -/
lemma snd_bind_pure (a : Action σ α) (f : α → β) (r : Router σ) :
    ((a >>= fun x => Pure.pure (f x)) r).2 = (a r).2 := by
  rw [bind_pure_apply]

/-- A call on the driver is noted with its end, and its end is the answer. -/
lemma attempt_apply (run : σ → Except RouteError α × σ) (note : Bool → Event) (r : Router σ) :
    attempt run note r = ((run r.world).1, { r with
      world := (run r.world).2
      events := r.events ++ [note (run r.world).1.isOk] }) :=
  rfl

end Action

/-! ## Courses -/

/-- The call by which an operation ends a transaction. -/
inductive Ending (c : Connection) (ok : Bool) : Operation → Event → Prop
  | commit : Ending c ok .commit (.commit c ok)
  | rollback : Ending c ok .rollback (.rollback c ok)

/-- What an operation makes of a router. -/
inductive Course (r : Router σ) (o : Operation) : Except RouteError Answer × Router σ → Prop
  /-- The operation is at odds with the transaction, or with the lack of one. -/
  | misplaced {e : RouteError} (hkind : o = .begin ∧ r.pinned.isSome ∨
      (o = .commit ∨ o = .rollback) ∧ r.pinned = none) : Course r o (.error e, r)
  /-- The statement is refused. -/
  | refused {e : QueryError} (hkind : o.sends) : Course r o (.error (.query e), r)
  /-- No connection is reached. -/
  | unreached {role : Role} {name : Option String} {e : RouteError} {r₁ : Router σ}
      (hwanted : o.wanted? = some (role, name)) (hbegin : o = .begin → r.pinned = none)
      (hreach : Router.Reach r role name (.error e, r₁)) : Course r o (.error e, r₁)
  /-- The connection is handed out. -/
  | handed {role : Role} {name : Option String} {c : Connection} {r₁ : Router σ}
      (hkind : o.handsOut) (hwanted : o.wanted? = some (role, name))
      (hreach : Router.Reach r role name (.ok c, r₁)) : Course r o (.ok (.connection c), r₁)
  /-- A transaction is begun. -/
  | begun {c : Connection} {r₁ : Router σ} {world : σ} {l : LogRecord} (hkind : o = .begin)
      (hpin : r.pinned = none) (hreach : Router.Reach r .writer none (.ok c, r₁))
      (hnote : l.isStatement = false) :
      Course r o (.ok (.connection c), { r₁ with
        world := world
        pinned := some c
        events := r₁.events ++ [.begin c true]
        log := r₁.log ++ [l] })
  /-- The driver fails to begin. -/
  | unbegun {c : Connection} {e : RouteError} {r₁ : Router σ} {world : σ} (hkind : o = .begin)
      (hpin : r.pinned = none) (hreach : Router.Reach r .writer none (.ok c, r₁)) :
      Course r o (.error e, { r₁ with
        world := world
        events := r₁.events ++ [.begin c false] })
  /-- A statement is sent. -/
  | sent {role : Role} {c : Connection} {r₁ : Router σ} {world : σ} {s : Statement}
      {kind : StatementKind} {calls : List Event} {answer : Except RouteError Answer}
      (hkind : o.sends) (hwanted : o.wanted? = some (role, none))
      (hreach : Router.Reach r role none (.ok c, r₁)) (hsent : Sent c s calls) :
      Course r o (answer, { r₁ with
        world := world
        events := r₁.events ++ calls
        log := r₁.log ++ (r₁.topology.log.record? kind c.name s.sql s.values.length).toList })
  /-- The transaction is committed or rolled back, or the driver fails to. -/
  | ended {c : Connection} {ok : Bool} {e : Event} {world : σ} {notes : List LogRecord}
      {answer : Except RouteError Answer} (hkind : Ending c ok o e) (hpin : r.pinned = some c)
      (hok : answer.isOk = ok) (hnotes : ∀ l ∈ notes, l.isStatement = false) :
      Course r o (answer, { r with
        world := world
        pinned := none
        events := r.events ++ [e]
        log := r.log ++ notes })
  /-- Every connection is given up. -/
  | disconnected {notes : List LogRecord} (hkind : o = .disconnect)
      (hnotes : ∀ l ∈ notes, l.isStatement = false) :
      Course r o (.ok .done, { r with
        pinned := none
        nodes := r.nodes.map fun n => { n with connection := none }
        log := r.log ++ notes })

/-! ## The course of each operation -/

section

variable {d : Driver σ} {r : Router σ} {o : Operation}

/-- An operation that reaches a connection first. -/
lemma Course.reaching {role : Role} {name : Option String} {f : Connection → Action σ Answer}
    (hwanted : o.wanted? = some (role, name)) (hbegin : o = .begin → r.pinned = none)
    (hreached : ∀ c r₁, Router.Reach r role name (.ok c, r₁) → Course r o (f c r₁)) :
    Course r o ((Router.connection d role name >>= f) r) := by
  have hreach := Router.reach_connection d role name r
  simp only [Action.bind_apply]
  generalize Router.connection d role name r = result at hreach ⊢
  obtain ⟨outcome, r₁⟩ := result
  cases outcome with
  | ok c => exact hreached c r₁ hreach
  | error e => exact .unreached hwanted hbegin hreach

/-- An operation that reaches a connection first, and answers with what comes of it. -/
lemma Course.reaching_bind {role : Role} {name : Option String} {α : Type}
    {f : Connection → Action σ α} {g : α → Action σ Answer}
    (hwanted : o.wanted? = some (role, name)) (hbegin : o = .begin → r.pinned = none)
    (hreached : ∀ c r₁, Router.Reach r role name (.ok c, r₁) → Course r o ((f c >>= g) r₁)) :
    Course r o ((Router.connection d role name >>= f >>= g) r) := by
  rw [Action.bind_assoc]
  exact .reaching hwanted hbegin hreached

/-- An operation that first finishes its statement. -/
lemma Course.finishing {x : Except QueryError Statement} {α : Type} {f : Statement → Action σ α}
    {g : α → Action σ Answer} (hkind : o.sends)
    (hfinished : ∀ s, Course r o ((f s >>= g) r)) :
    Course r o ((Action.ofQuery x >>= f >>= g) r) := by
  rw [Action.bind_assoc]
  cases x with
  | ok s => exact hfinished s
  | error e => exact .refused hkind

variable {role : Role} {c : Connection} {r₁ : Router σ} {s : Statement} {k : StatementKind}

/-- An operation that sends its statement for rows. -/
lemma Course.querying {result : Except RouteError Answer × Router σ} (hkind : o.sends)
    (hwanted : o.wanted? = some (role, none)) (hreach : Router.Reach r role none (.ok c, r₁))
    (hresult : result.2 = (Router.sendQuery d k c s r₁).2) : Course r o result := by
  obtain ⟨answer, r₂⟩ := result
  obtain rfl : r₂ = _ := hresult
  exact .sent hkind hwanted hreach (.query (d.query c s r₁.world).1.isOk)

/-- An operation that sends its statement for changes. -/
lemma Course.executing {result : Except RouteError Answer × Router σ} (hkind : o.sends)
    (hwanted : o.wanted? = some (role, none)) (hreach : Router.Reach r role none (.ok c, r₁))
    (hresult : result.2 = (Router.sendExecute d k c s r₁).2) : Course r o result := by
  obtain ⟨answer, r₂⟩ := result
  obtain rfl : r₂ = _ := hresult
  exact .sent hkind hwanted hreach (.execute (d.execute c s r₁.world).1.isOk)

/-- An operation that sends its statement for changes and then asks for the key. -/
lemma Course.inserting {result : Except RouteError Answer × Router σ} (sequence : Option String)
    (hkind : o.sends) (hwanted : o.wanted? = some (role, none))
    (hreach : Router.Reach r role none (.ok c, r₁))
    (hresult : result.2 = ((Router.sendExecute d k c s >>= fun _ =>
      Action.attempt (d.lastInsertId c sequence) (.lastInsertId c sequence)) r₁).2) :
    Course r o result := by
  obtain ⟨answer, r₂⟩ := result
  obtain rfl : r₂ = _ := hresult
  simp only [Action.bind_apply, Router.sendExecute, Router.logStatement, Action.attempt_apply]
  rcases d.execute c s r₁.world with ⟨outcome, world⟩
  cases outcome with
  | error e => exact .sent hkind hwanted hreach (.execute false)
  | ok n =>
    simp only [List.append_assoc]
    exact .sent hkind hwanted hreach (.insert sequence (d.lastInsertId c sequence world).1.isOk)

/-- An operation that takes the pin off first. -/
lemma Course.releasing {otherwise : RouteError} {run : Connection → σ → Except RouteError Unit × σ}
    {note : Connection → Bool → Event} {told : Connection → LogRecord}
    (hkind : o = .commit ∨ o = .rollback) (hend : ∀ c ok, Ending c ok o (note c ok))
    (htold : ∀ c, (told c).isStatement = false) :
    Course r o ((Router.release otherwise >>= fun c => Action.attempt (run c) (note c) >>= fun _ =>
      Action.tell (told c) >>= fun _ => Pure.pure .done) r) := by
  simp only [Action.bind_apply, Router.release]
  cases hpin : r.pinned with
  | none => exact .misplaced (.inr ⟨hkind, hpin⟩)
  | some c =>
    simp only [Action.attempt_apply]
    rcases run c r.world with ⟨outcome, world⟩
    cases outcome with
    | ok x => exact .ended (hend c true) hpin rfl (by simp [htold])
    | error e =>
      have hfailed := @Course.ended σ r o c false _ world [] (.error e) (hend c false) hpin rfl
        (by simp)
      rw [List.append_nil] at hfailed
      exact hfailed

end

namespace Operation

variable (d : Driver σ)

/-- Without a transaction, begin goes on from a connection to a writer. -/
lemma run_begin {r : Router σ} (hpin : r.pinned = none) :
    begin.run d r = (Router.connection d .writer none >>= fun c =>
      Action.attempt (d.begin c) (.begin c) >>= fun _ =>
        Action.tell (.begun c.name) >>= fun _ r =>
          (.ok (.connection c), { r with pinned := some c })) r := by
  simp only [run, Action.bind_apply, Router.begin, hpin, Router.writer]
  rcases Router.connection d .writer none r with ⟨outcome, r₁⟩
  cases outcome with
  | error e => rfl
  | ok c =>
    simp only [Action.attempt_apply]
    rcases d.begin c r₁.world with ⟨outcome, world⟩
    cases outcome <;> rfl

/-- Beginning inside of a transaction is refused at once.  Otherwise it reaches the writer, and the
driver decides whether the connection is pinned. -/
lemma course_begin (r : Router σ) : Course r .begin (begin.run d r) := by
  cases hpin : r.pinned with
  | some c =>
    have hbegin : begin.run d r = (.error .alreadyOpen, r) := by
      simp only [run, Action.bind_apply, Router.begin, hpin]
    rw [hbegin]
    exact .misplaced (.inl ⟨rfl, by simp [hpin]⟩)
  | none =>
    rw [run_begin d hpin]
    refine .reaching rfl (fun _ => hpin) fun c r₁ hreach => ?_
    simp only [Action.bind_apply, Action.attempt_apply]
    rcases d.begin c r₁.world with ⟨outcome, world⟩
    cases outcome with
    | ok x => exact .begun rfl hpin hreach rfl
    | error e => exact .unbegun rfl hpin hreach

/-- A query that is no select is refused.  One that asks for the writer reaches it, and any other a
reader. -/
lemma course_select (q : Query) (r : Router σ) : Course r (.select q) ((select q).run d r) := by
  simp only [run, Router.select]
  split_ifs with hkind hwriter
  · exact .refused rfl
  · have hwanted : (select q).wanted? = some (.writer, none) := by simp [wanted?, hwriter]
    exact .finishing rfl fun s => .reaching_bind hwanted nofun fun _ _ hreach =>
      .querying rfl hwanted hreach (Action.snd_bind_pure ..)
  · have hwanted : (select q).wanted? = some (.reader, none) := by simp [wanted?, hwriter]
    exact .finishing rfl fun s => .reaching_bind hwanted nofun fun _ _ hreach =>
      .querying rfl hwanted hreach (Action.snd_bind_pure ..)

/-- A select is refused, and everything else is run on the writer. -/
lemma course_execute (q : Query) (r : Router σ) : Course r (.execute q) ((execute q).run d r) := by
  simp only [run, Router.execute]
  split_ifs with hkind
  · exact .finishing rfl fun s => .reaching_bind rfl nofun fun _ _ hreach =>
      .executing rfl rfl hreach (Action.snd_bind_pure ..)
  · exact .refused rfl

/-- Without a sequence it is refused.  On Postgres the key is a row of the answer, elsewhere the
driver is asked for it. -/
lemma course_insertReturning (q : Query) (r : Router σ) :
    Course r (.insertReturning q) ((insertReturning q).run d r) := by
  simp only [run, Router.insertReturning]
  cases q.sequence with
  | none => exact .refused rfl
  | some sequence =>
    refine .finishing rfl fun s => .reaching_bind rfl nofun fun c r₁ hreach => ?_
    by_cases hdialect : r₁.style.dialect = .postgres
    · refine .querying (d := d) (s := s) (k := .insert) rfl rfl hreach
        ((Action.snd_bind_pure ..).trans ?_)
      rw [if_pos hdialect]
      exact Action.snd_bind_pure ..
    · refine .inserting (d := d) (s := s) (k := .insert) (some sequence) rfl rfl hreach
        ((Action.snd_bind_pure ..).trans ?_)
      rw [if_neg hdialect]

/-- Raw SQL is written with the prefix of the router as it is before the connection is reached. -/
lemma selectRaw_apply (sql : String) (values : List Value) (r : Router σ) :
    Router.selectRaw d sql values r = (Router.connection d .reader none >>= fun c =>
      Router.sendQuery d .select c ⟨r.withPrefix sql, values⟩) r :=
  rfl

lemma executeRaw_apply (sql : String) (values : List Value) (r : Router σ) :
    Router.executeRaw d sql values r = (Router.connection d .writer none >>= fun c =>
      Router.sendExecute d .update c ⟨r.withPrefix sql, values⟩) r :=
  rfl

/-- Raw SQL is not looked at, so all that can go wrong is the connection or the driver. -/
lemma course_selectRaw (sql : String) (values : List Value) (r : Router σ) :
    Course r (.selectRaw sql values) ((selectRaw sql values).run d r) := by
  rw [run, Action.bind_congr (selectRaw_apply d sql values r)]
  exact .reaching_bind rfl nofun fun _ _ hreach =>
    .querying rfl rfl hreach (Action.snd_bind_pure ..)

lemma course_executeRaw (sql : String) (values : List Value) (r : Router σ) :
    Course r (.executeRaw sql values) ((executeRaw sql values).run d r) := by
  rw [run, Action.bind_congr (executeRaw_apply d sql values r)]
  exact .reaching_bind rfl nofun fun _ _ hreach =>
    .executing rfl rfl hreach (Action.snd_bind_pure ..)

/-- **An operation can do nothing else.** -/
theorem course (o : Operation) (r : Router σ) : Course r o (o.run d r) := by
  cases o with
  | writer name => exact .reaching rfl nofun fun _ _ hreach => .handed rfl rfl hreach
  | reader name => exact .reaching rfl nofun fun _ _ hreach => .handed rfl rfl hreach
  | begin => exact course_begin d r
  | commit =>
    simp only [run, Router.commit, Action.bind_assoc]
    exact .releasing (.inl rfl) (fun _ _ => .commit) fun _ => rfl
  | rollback =>
    simp only [run, Router.rollback, Action.bind_assoc]
    exact .releasing (.inr rfl) (fun _ _ => .rollback) fun _ => rfl
  | disconnect =>
    simp only [run, Action.bind_apply, Router.disconnect]
    cases r.pinned with
    | none => exact .disconnected rfl (by simp [LogRecord.isStatement])
    | some c =>
      simp only [Option.isSome_some, if_true, List.append_assoc]
      exact .disconnected rfl (by simp [LogRecord.isStatement])
  | select q => exact course_select d q r
  | execute q => exact course_execute d q r
  | insertReturning q => exact course_insertReturning d q r
  | selectRaw sql values => exact course_selectRaw d sql values r
  | executeRaw sql values => exact course_executeRaw d sql values r

end Operation

/-! ## What is sent -/

/-- Whether a connection is the one for the commands of an operation, where reaching for it led to a
router: it is pinned, or was reached for what the operation wants. -/
def Operation.Addresses (o : Operation) (r r₁ : Router σ) (c : Connection) : Prop :=
  r.pinned = some c ∧ r₁ = r ∨
    ∃ role name, o.wanted? = some (role, name) ∧ Router.Reach r role name (.ok c, r₁)

/-- All calls of one statement are on the connection that it is sent to. -/
lemma Sent.commanded {c : Connection} {s : Statement} {calls : List Event} (h : Sent c s calls) :
    ∀ e ∈ calls, e.commanded = some c := by
  cases h <;> simp [Event.commanded]

/-- An operation looks for its connection first, and then sends its commands, all of them there.
If it hands the connection out it has no commands, and if it has a statement but no commands it
fails. -/
lemma Course.commands {r r' : Router σ} {o : Operation} {answer : Except RouteError Answer}
    (h : Course r o (answer, r')) :
    ∃ r₁ trail commands, r₁.events = r.events ++ trail ∧ (∀ e ∈ trail, e.commanded = none) ∧
      r'.events = r₁.events ++ commands ∧
      (∀ e ∈ commands, o.handsOut = false ∧ ∃ c, e.commanded = some c ∧ o.Addresses r r₁ c) ∧
      (o.sends → (∃ e, answer = .error e ∧ commands = []) ∨ ∃ c s, Sent c s commands) := by
  cases h with
  -- Nothing was looked for.
  | misplaced | refused =>
    exact ⟨r, [], [], by simp, by simp, by simp, by simp, fun _ => .inl ⟨_, rfl, rfl⟩⟩
  | unreached _ _ hreach =>
    obtain ⟨trail, hevents, htrail⟩ := hreach.events_eq
    exact ⟨r', trail, [], hevents, htrail, by simp, by simp, fun _ => .inl ⟨_, rfl, rfl⟩⟩
  | handed hkind _ hreach =>
    obtain ⟨trail, hevents, htrail⟩ := hreach.events_eq
    refine ⟨r', trail, [], hevents, htrail, by simp, by simp, fun hsends => ?_⟩
    rw [Operation.handsOut_of_sends hsends] at hkind
    cases hkind
  | begun hkind _ hreach | unbegun hkind _ hreach =>
    obtain ⟨trail, hevents, htrail⟩ := hreach.events_eq
    subst hkind
    refine ⟨_, trail, _, hevents, htrail, rfl, fun e he => ⟨rfl, ?_⟩, nofun⟩
    rw [List.mem_singleton.mp he]
    exact ⟨_, rfl, .inr ⟨_, _, rfl, hreach⟩⟩
  | sent hkind hwanted hreach hsent =>
    obtain ⟨trail, hevents, htrail⟩ := hreach.events_eq
    refine ⟨_, trail, _, hevents, htrail, rfl, fun e he => ?_, fun _ => .inr ⟨_, _, hsent⟩⟩
    exact ⟨Operation.handsOut_of_sends hkind, _, hsent.commanded e he, .inr ⟨_, _, hwanted, hreach⟩⟩
  -- The pin was there from the start, so nothing was looked for either.
  | @ended c ok e _ _ _ hkind hpin =>
    refine ⟨r, [], [e], by simp, by simp, rfl, fun e' he => ?_, ?_⟩
    · rw [List.mem_singleton.mp he]
      cases hkind <;> exact ⟨rfl, _, rfl, .inl ⟨hpin, rfl⟩⟩
    · cases hkind <;> exact nofun
  | disconnected hkind =>
    subst hkind
    exact ⟨r, [], [], by simp, by simp, by simp, by simp, nofun⟩

end SqlWeave
