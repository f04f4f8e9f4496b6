import SqlWeave.Proofs.Routing.Sound
import SqlWeave.Router.Scripted

/-!
# Reading and writing apart

Where the nodes of a topology that change data are apart from those that are read, nothing but a
select goes to a node that is read, and outside of a transaction a select goes nowhere else unless
it asks to.

* `Topology.writerNodes`, `Topology.readerNodes` — the two parts of the nodes.
* `Topology.Admits` — the nodes to which a command may go, under each mode.
* `commands_go_to_admitted_nodes` — every command of every session goes to such a node, on a
  connection that was opened for it.
-/

namespace SqlWeave

variable {σ α : Type} {d : Driver σ} {t : Topology} {r r₁ : Router σ} {n : Registration}

/-! ## The parts of a topology -/

/-- Whether a node takes part in a role. -/
def Role.takes : Role → Registration → Bool
  | .writer => Registration.writes
  | .reader => Registration.reads

namespace Topology

/-- The nodes that change data, where they are apart from those that are read. -/
def writerNodes (t : Topology) : List Registration :=
  (t.master.toList.map fun n => ⟨"writer.master", "master", n, true, false⟩)
    ++ (t.writers.entries.map fun e => ⟨"writer." ++ e.1, e.1, e.2, true, false⟩)

/-- The nodes that are read, where they are apart from those that change data. -/
def readerNodes (t : Topology) : List Registration :=
  (t.slaves.entries ++ t.readers.entries).map fun e =>
    ⟨"reader." ++ e.1, e.1, e.2, false, true⟩

/-- Whether a command may go to a node, for reading alone or not. -/
def Admits (t : Topology) (reading : Bool) (n : Registration) : Prop :=
  match t.mode with
  | .single => t.solo = some n.config
  | .masterSlave =>
    if reading then n ∈ t.readerNodes ∧ n ∉ t.writerNodes
    else n ∈ t.writerNodes ∧ n ∉ t.readerNodes
  | .cluster => (n.key, n.config) ∈ t.nodes.entries

lemma registrations_masterSlave (hmode : t.mode = .masterSlave) :
    t.registrations = t.writerNodes ++ t.readerNodes := by
  simp only [registrations, hmode]
  rfl

lemma of_mem_writerNodes (h : n ∈ t.writerNodes) : n.writes = true ∧ n.reads = false := by
  simp only [writerNodes, List.mem_append, List.mem_map] at h
  rcases h with ⟨_, _, rfl⟩ | ⟨_, _, rfl⟩ <;> exact ⟨rfl, rfl⟩

lemma of_mem_readerNodes (h : n ∈ t.readerNodes) : n.writes = false ∧ n.reads = true := by
  simp only [readerNodes, List.mem_map] at h
  obtain ⟨_, _, rfl⟩ := h
  exact ⟨rfl, rfl⟩

/-- A node that takes part in a role may be used for it. -/
lemma admits_of_mem {reading : Bool} (hn : n ∈ t.registrations)
    (htakes : (if reading then Role.reader else .writer).takes n = true) :
    t.Admits reading n := by
  cases hmode : t.mode with
  | single =>
    simp only [registrations, hmode, List.mem_map, Option.mem_toList] at hn
    obtain ⟨config, hsolo, rfl⟩ := hn
    simp only [Admits, hmode]
    exact hsolo
  -- Only here do the two roles have nodes of their own, and no node is in both.
  | masterSlave =>
    rw [registrations_masterSlave hmode] at hn
    simp only [Admits, hmode]
    rcases List.mem_append.mp hn with hwriter | hreader
    · obtain ⟨hwrites, hreads⟩ := of_mem_writerNodes hwriter
      cases reading with
      | true => simp [Role.takes, hreads] at htakes
      | false =>
        refine ⟨hwriter, fun hreader => ?_⟩
        rw [(of_mem_readerNodes hreader).1] at hwrites
        cases hwrites
    · obtain ⟨hwrites, hreads⟩ := of_mem_readerNodes hreader
      cases reading with
      | false => simp [Role.takes, hwrites] at htakes
      | true =>
        refine ⟨hreader, fun hwriter => ?_⟩
        rw [(of_mem_writerNodes hwriter).2] at hreads
        cases hreads
  | cluster =>
    simp only [registrations, hmode, List.mem_map] at hn
    obtain ⟨entry, hentry, rfl⟩ := hn
    simp only [Admits, hmode]
    exact hentry

end Topology

lemma mem_positions {takes : Registration → Bool} {nodes : List Registration} {i : Nat}
    (h : i ∈ positions takes nodes) : ∃ n, nodes[i]? = some n ∧ takes n = true := by
  simp only [positions, List.mem_map, List.mem_filter] at h
  obtain ⟨⟨n, j⟩, ⟨hmem, htakes⟩, rfl⟩ := h
  exact ⟨n, List.mem_zipIdx_iff_getElem?.mp hmem, htakes⟩

/-! ## What is sent where -/

/-- Whether an operation only reads, and did not ask for a writer. -/
def Operation.reads : Operation → Bool
  | .select q => !q.usesWriter
  | .selectRaw .. => true
  | _ => false

/-- What sends something is for a reader if it only reads. -/
lemma Operation.role_of_wanted {o : Operation} {role : Role} {name : Option String}
    (hkind : o.handsOut = false) (hwanted : o.wanted? = some (role, name)) :
    role = if o.reads then .reader else .writer := by
  cases o with
  | select q =>
    obtain ⟨rfl, -⟩ := Prod.mk.inj (Option.some.inj hwanted)
    cases hwriter : q.usesWriter <;> simp [reads, hwriter]
  | writer | reader => cases hkind
  | commit | rollback | disconnect => cases hwanted
  | _ =>
    obtain ⟨rfl, -⟩ := Prod.mk.inj (Option.some.inj hwanted)
    rfl

/-- A node that can be picked for a role takes part in it. -/
lemma Sound.takes_of_candidate (h : Sound t r) {role : Role} {i : Nat}
    (hi : i ∈ r.candidates role) : ∃ n, t.registrations[i]? = some n ∧ role.takes n = true := by
  cases role with
  | writer => exact mem_positions (h.writers ▸ hi)
  | reader => exact mem_positions (h.readers ▸ hi)

/-- The connection for the commands of an operation was opened for a node to which they may go. -/
lemma Sound.addressed (h : Sound t r) {o : Operation} {c : Connection} (hkind : o.handsOut = false)
    (haddress : o.Addresses r r₁ c) :
    ∃ n, t.registrations[c.node]? = some n ∧ c.OpenedFor n r₁.events ∧
      t.Admits (o.reads && !r.inTransaction) n := by
  obtain ⟨hsound, hkeeps, hpicked⟩ : Sound t r₁ ∧ r₁.Keeps c.node c ∧
      c.node ∈ r.candidates (if o.reads && !r.inTransaction then .reader else .writer) := by
    -- While a transaction is open its writer serves every role.
    have hpinned (hpin : r.pinned = some c) :
        c.node ∈ r.candidates (if o.reads && !r.inTransaction then .reader else .writer) := by
      simpa [Router.inTransaction, hpin, Router.candidates] using (h.pinned hpin).1
    rcases haddress with ⟨hpin, rfl⟩ | ⟨role, name, hwanted, hreach⟩
    · exact ⟨h, (h.pinned hpin).2, hpinned hpin⟩
    · obtain ⟨hkeeps, hpin | ⟨hfree, hpicked⟩⟩ := h.reached hreach
      · exact ⟨h.reach hreach, hkeeps, hpinned hpin⟩
      · rw [Operation.role_of_wanted hkind hwanted] at hpicked
        exact ⟨h.reach hreach, hkeeps, by simpa [Router.inTransaction, hfree] using hpicked⟩
  obtain ⟨-, n, hn, hopened⟩ := hsound.kept hkeeps
  obtain ⟨n', hn', htakes⟩ := h.takes_of_candidate hpicked
  obtain rfl := Option.some.inj (hn.symm.trans hn')
  exact ⟨n, hn, hopened, Topology.admits_of_mem (List.mem_of_getElem? hn) htakes⟩

/-- **Every command goes to a node that is there for it**, on a connection that was opened for that
node.  Where the nodes that change data are apart from those that are read, statements that only
read go to a node that is read unless a transaction is open, and everything else goes to one that
changes data.  A statement that is not sent is answered with a failure. -/
theorem commands_go_to_admitted_nodes {world : σ} (h : Router.ofTopology t world = .ok r)
    (d : Driver σ) (s : Session σ α) :
    ∀ m ∈ s.steps d r, ∃ trail commands,
      m.after.events = m.before.events ++ trail ++ commands ∧
      (∀ e ∈ trail, e.commanded = none) ∧
      (∀ e ∈ commands, ∃ c n, e.commanded = some c ∧ t.registrations[c.node]? = some n ∧
        c.OpenedFor n m.after.events ∧
        t.Admits (m.operation.reads && !m.before.inTransaction) n) ∧
      (m.operation.sends →
        (∃ e, m.answer = .error e ∧ commands = []) ∨ ∃ c st, Sent c st commands) := by
  intro m hm
  have hsound := ((Session.sound h d s).1 m hm).1
  obtain ⟨r₁, trail, commands, htrail, hprobes, hevents, hcommands, hsent⟩ :=
    ((s.linked d r).course hm).commands
  refine ⟨trail, commands, by rw [hevents, htrail], hprobes, fun e he => ?_, hsent⟩
  obtain ⟨hkind, c, hc, haddress⟩ := hcommands e he
  obtain ⟨n, hn, hopened, hadmits⟩ := hsound.addressed hkind haddress
  exact ⟨c, n, hc, hn, by rw [hevents]; exact hopened.append commands, hadmits⟩

/-- A raw select before and inside of a transaction, and a change before it, on two nodes. -/
theorem commands_go_to_admitted_nodes_pair :
    let d := Script.driver Unit
    let s : Session (Script × Unit) Unit :=
      .call (.selectRaw "q" []) fun _ => .call (.executeRaw "x" []) fun _ =>
        .call .begin fun _ => .call (.selectRaw "q" []) fun _ => .finish (.ok ())
    ∃ r, Router.ofTopology .pair (Script.smooth, ()) = .ok r ∧
      (s.steps d r).map (fun m => m.operation.reads && !m.before.inTransaction)
        = [true, false, false, false] ∧
      ∀ m ∈ s.steps d r, ∃ trail commands,
        m.after.events = m.before.events ++ trail ++ commands ∧
        (m.operation.sends → ∃ c st, Sent c st commands) ∧
        ∀ e ∈ commands, ∃ c n, e.commanded = some c ∧ c.config = n.config ∧
          Topology.pair.Admits (m.operation.reads && !m.before.inTransaction) n := by
  intro d s
  obtain ⟨r, hr, hreading, hanswers⟩ : ∃ r,
      Router.ofTopology .pair (Script.smooth, ()) = .ok r ∧
        (s.steps d r).map (fun m => m.operation.reads && !m.before.inTransaction)
          = [true, false, false, false] ∧ ∀ m ∈ s.steps d r, m.answer.isOk = true :=
    ⟨_, rfl, by decide +kernel, by decide +kernel⟩
  refine ⟨r, hr, hreading, fun m hm => ?_⟩
  obtain ⟨trail, commands, hevents, -, hcommands, hsent⟩ :=
    commands_go_to_admitted_nodes hr d s m hm
  refine ⟨trail, commands, hevents, fun hsends => ?_, fun e he => ?_⟩
  · refine (hsent hsends).resolve_left ?_
    rintro ⟨e, herror, -⟩
    have hok := hanswers m hm
    rw [herror] at hok
    cases hok
  · obtain ⟨c, n, hc, -, hopened, hadmits⟩ := hcommands e he
    exact ⟨c, n, hc, hopened.config, hadmits⟩

end SqlWeave
