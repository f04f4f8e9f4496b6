import SqlWeave.Proofs.Reconnecting
import SqlWeave.Proofs.RoundRobin
import SqlWeave.Proofs.RoutingInvariant

/-!
# The names of nodes

A node is asked for by a role and by its key, and the first node of the role with that key is taken.
The keys of one map are distinct.  Where reading and writing are apart, two maps and the usual name
of the master come together under each role, and nothing looks at whether they have a name in
common: then the later of two nodes is reached by turn only.

* `Topology.NamesApart` — **when it holds**: no name is used by both spellings of a role.
* `Topology.nodup_names_iff` — exactly then the registered names are distinct.
* `Router.Selects` — a role and a key stand for the node at a position.
* `Sound.selects_iff` — exactly if no earlier node is registered under the name of that node.
* `nodes_selected_iff` — the statement for every session.
-/

namespace SqlWeave

variable {σ α : Type} {t : Topology} {r : Router σ} {role : Role} {i : ℕ} {n m : Registration}

/-! ## Names of a topology -/

/-- The names of the entries. -/
def NameMap.names (m : NameMap α) : List String :=
  m.entries.map (·.1)

lemma NameMap.nodup_names (m : NameMap α) : m.names.Nodup :=
  List.pairwise_map.mpr (m.increasing.imp fun h => String.ne_of_lt h)

namespace Topology

/-- Whether the two spellings of a role, where there are two, have no name in common. -/
def NamesApart (t : Topology) : Prop :=
  t.mode = .masterSlave →
    (t.master.isSome = true → "master" ∉ t.writers.names) ∧
      ∀ name ∈ t.slaves.names, name ∉ t.readers.names

/-- The names of the writers, under the two spellings of the role. -/
lemma writerNodes_names (t : Topology) :
    t.writerNodes.map (·.name)
      = ((t.master.toList.map fun _ => "master") ++ t.writers.names).map ("writer." ++ ·) := by
  cases h : t.master <;> simp [writerNodes, NameMap.names, Function.comp_def, h]

lemma readerNodes_names (t : Topology) :
    t.readerNodes.map (·.name)
      = (t.slaves.names ++ t.readers.names).map ("reader." ++ ·) := by
  simp [readerNodes, NameMap.names, Function.comp_def]

/-- The role can be told from the name. -/
lemma writer_ne_reader (key key' : String) : "writer." ++ key ≠ "reader." ++ key' := by
  intro h
  have hlist := congrArg String.toList h
  simp at hlist

/-- A mark in front of all names keeps them apart or together. -/
lemma nodup_map_append_iff (mark : String) (names : List String) :
    (names.map (mark ++ ·)).Nodup ↔ names.Nodup :=
  List.nodup_map_iff fun _ _ h => (String.append_right_inj mark).mp h

/-- **The registered names are distinct** exactly if no name is used by both spellings of a role. -/
lemma nodup_names_iff (t : Topology) :
    (t.registrations.map (·.name)).Nodup ↔ t.NamesApart := by
  cases hmode : t.mode with
  | single =>
    refine iff_of_true ?_ fun h => by rw [hmode] at h; cases h
    cases hsolo : t.solo <;> simp [registrations, hmode, hsolo]
  | cluster =>
    refine iff_of_true ?_ fun h => by rw [hmode] at h; cases h
    simpa [registrations, hmode, NameMap.names, Function.comp_def] using t.nodes.nodup_names
  | masterSlave =>
    have hwriters : ((t.master.toList.map fun _ => "master") ++ t.writers.names).Nodup
        ↔ (t.master.isSome = true → "master" ∉ t.writers.names) := by
      cases t.master <;> simp [t.writers.nodup_names]
    have hreaders : (t.slaves.names ++ t.readers.names).Nodup
        ↔ ∀ name ∈ t.slaves.names, name ∉ t.readers.names := by
      simp only [List.nodup_append', t.slaves.nodup_names, t.readers.nodup_names, true_and,
        List.disjoint_left]
    have hroles : (t.writerNodes.map (·.name)).Disjoint (t.readerNodes.map (·.name)) := by
      simp only [writerNodes_names, readerNodes_names, List.disjoint_left, List.mem_map]
      rintro _ ⟨key, -, rfl⟩ ⟨key', -, h⟩
      exact writer_ne_reader key key' h.symm
    rw [registrations_masterSlave hmode, List.map_append, List.nodup_append', writerNodes_names,
      readerNodes_names, nodup_map_append_iff, nodup_map_append_iff, hwriters, hreaders, NamesApart,
      ← writerNodes_names, ← readerNodes_names]
    simp only [hroles, hmode, forall_const, and_true]

/-- A node is registered under its key, behind the role that it has alone. -/
lemma name_eq (hn : n ∈ t.registrations) :
    n.name = (if t.mode = .masterSlave then if n.writes then "writer." else "reader." else "")
      ++ n.key := by
  cases hmode : t.mode with
  | single | cluster =>
    simp only [registrations, hmode, List.mem_map] at hn
    obtain ⟨_, _, rfl⟩ := hn
    simp
  | masterSlave =>
    rw [registrations_masterSlave hmode, List.mem_append] at hn
    simp only [writerNodes, readerNodes, List.mem_append, List.mem_map] at hn
    rcases hn with (⟨_, _, rfl⟩ | ⟨_, _, rfl⟩) | ⟨_, _, rfl⟩ <;> simp

/-- What a node takes part in is told by whether it changes data. -/
lemma takes_iff (hn : n ∈ t.registrations) (role : Role) :
    role.takes n = true ↔ t.mode ≠ .masterSlave ∨ n.writes = decide (role = .writer) := by
  by_cases hmode : t.mode = .masterSlave
  · have hreads : n.reads = !n.writes := by
      rw [registrations_masterSlave hmode] at hn
      rcases List.mem_append.mp hn with hn | hn
      · simp [(of_mem_writerNodes hn)]
      · simp [(of_mem_readerNodes hn)]
    cases role <;> simp [Role.takes, hmode, hreads]
  · obtain ⟨hwrites, hreads⟩ := writes_and_reads hmode n hn
    cases role <;> simp [Role.takes, hmode, hwrites, hreads]

/-- Every node takes part in one role at least. -/
lemma exists_takes (hn : n ∈ t.registrations) : ∃ role : Role, role.takes n = true := by
  cases hwrites : n.writes with
  | true => exact ⟨.writer, hwrites⟩
  | false => exact ⟨.reader, (takes_iff hn .reader).mpr (.inr (by simp [hwrites]))⟩

/-- **Among the nodes of a role the name tells as much as the key**, and nodes of one name take part
in the same roles. -/
lemma name_eq_iff (hn : n ∈ t.registrations) (hm : m ∈ t.registrations)
    (hrole : role.takes n = true) : m.name = n.name ↔ role.takes m = true ∧ m.key = n.key := by
  rw [name_eq hn, name_eq hm, takes_iff hm]
  rw [takes_iff hn] at hrole
  by_cases hmode : t.mode = .masterSlave
  · have hwrites := hrole.resolve_left (not_not_intro hmode)
    simp only [hmode, if_true, hwrites, not_true_eq_false, ne_eq, false_or]
    cases m.writes <;> cases role <;>
      simp [String.append_right_inj, writer_ne_reader, (writer_ne_reader _ _).symm]
  · simp [hmode]

end Topology

/-! ## Asking for a node -/

/-- The first number of an increasing list with a property is the least. -/
lemma find?_eq_some_iff_least {p : ℕ → Bool} {l : List ℕ} (h : l.Pairwise (· < ·)) :
    l.find? p = some i ↔ i ∈ l ∧ p i = true ∧ ∀ j ∈ l, j < i → p j = false := by
  constructor
  · intro hfind
    obtain ⟨hp, before, after, rfl, hbefore⟩ := List.find?_eq_some_iff_append.mp hfind
    refine ⟨by simp, hp, fun j hj hlt => ?_⟩
    obtain ⟨-, hafter, -⟩ := List.pairwise_append.mp h
    rcases List.mem_append.mp hj with hj | hj
    · simpa using hbefore j hj
    · rcases List.mem_cons.mp hj with rfl | hj
      · exact absurd hlt (lt_irrefl _)
      · exact absurd hlt (List.rel_of_pairwise_cons hafter hj).not_gt
  · rintro ⟨hi, hp, hleast⟩
    obtain ⟨before, after, rfl⟩ := List.append_of_mem hi
    refine List.find?_eq_some_iff_append.mpr ⟨hp, before, after, rfl, fun j hj => ?_⟩
    have hlt := (List.pairwise_append.mp h).2.2 j hj i List.mem_cons_self
    simp [hleast j (List.mem_append_left _ hj) hlt]

namespace Router

/-- Whether a role and a key stand for the node at a position, with no turn taken. -/
def Selects (r : Router σ) (role : Role) (key : String) (i : ℕ) : Prop :=
  pick role (some key) r = (.ok i, r)

/-- A key stands for the first node of the role that has it. -/
lemma selects_iff_find? {key : String} :
    r.Selects role key i ↔ (r.candidates role).find? (r.hasKey key) = some i := by
  cases hfind : (r.candidates role).find? (r.hasKey key) with
  | none =>
    by_cases hempty : (r.candidates role).isEmpty = true <;> simp [Selects, pick, hempty, hfind]
  | some j =>
    have hne : (r.candidates role).isEmpty = false := by
      simpa using List.ne_nil_of_mem (List.mem_of_find?_eq_some hfind)
    simp [Selects, pick, hne, hfind]

end Router

/-- The key of a node is fixed by the topology. -/
lemma Sound.hasKey_iff (h : Sound t r) (hn : t.registrations[i]? = some n) (key : String) :
    r.hasKey key i = decide (n.key = key) := by
  rw [← h.registered, List.getElem?_map, Option.map_eq_some_iff] at hn
  obtain ⟨node, hnode, rfl⟩ := hn
  simp [Router.hasKey, hnode]

/-- **A node is selected by its roles and its key**, unless an earlier one is registered under the
same name. -/
theorem Sound.selects_iff (h : Sound t r) (hn : t.registrations[i]? = some n) (role : Role)
    (key : String) :
    r.Selects role key i ↔ role.takes n = true ∧ key = n.key ∧
      ∀ j m, j < i → t.registrations[j]? = some m → m.name ≠ n.name := by
  rw [Router.selects_iff_find?, h.candidates_eq,
    find?_eq_some_iff_least (pairwise_positions role.takes t.registrations), h.hasKey_iff hn]
  have hmem : i ∈ positions role.takes t.registrations ↔ role.takes n = true := by
    simp [mem_positions_iff, hn]
  rw [hmem, decide_eq_true_eq, eq_comm (a := n.key)]
  refine and_congr_right fun hrole => and_congr_right fun hkey => ?_
  subst hkey
  constructor
  · intro hleast j m hj hm hname
    obtain ⟨htakes, hkey⟩ := (Topology.name_eq_iff (List.mem_of_getElem? hn)
      (List.mem_of_getElem? hm) hrole).mp hname
    have hno := hleast j (mem_positions_iff.mpr ⟨m, hm, htakes⟩) hj
    rw [h.hasKey_iff hm, hkey] at hno
    simp at hno
  · intro hearlier j hj hlt
    obtain ⟨m, hm, htakes⟩ := mem_positions_iff.mp hj
    rw [h.hasKey_iff hm, decide_eq_false_iff_not]
    intro hkey
    exact hearlier j m hlt hm ((Topology.name_eq_iff (List.mem_of_getElem? hn)
      (List.mem_of_getElem? hm) hrole).mpr ⟨htakes, hkey⟩)

/-- Every node is selected by something exactly if the registered names are distinct. -/
lemma Sound.all_selected_iff (h : Sound t r) :
    (∀ i < t.registrations.length, ∃ role key, r.Selects role key i) ↔ t.NamesApart := by
  rw [← Topology.nodup_names_iff, List.nodup_iff_pairwise_ne, List.pairwise_map,
    List.pairwise_iff_getElem]
  constructor
  · intro hall j i hj hi hlt
    obtain ⟨role, key, hselects⟩ := hall i hi
    exact ((h.selects_iff (List.getElem?_eq_getElem hi) role key).mp hselects).2.2 j _ hlt
      (List.getElem?_eq_getElem hj)
  · intro hdistinct i hi
    obtain ⟨role, hrole⟩ := Topology.exists_takes (List.getElem_mem hi)
    refine ⟨role, t.registrations[i].key,
      (h.selects_iff (List.getElem?_eq_getElem hi) _ _).mpr ⟨hrole, rfl, fun j m hlt hm => ?_⟩⟩
    obtain ⟨hj, rfl⟩ := List.getElem?_eq_some_iff.mp hm
    exact hdistinct j i hj hi hlt

/-! ## The statement -/

/-- **Which nodes can be asked for by name**, for every topology that passes its check and after
every session that left no transaction open.  The registered names are distinct exactly if no name
is used by both spellings of a role.  A role and a key reach the node at a position exactly if the
node takes part in the role, has that key, and no earlier node is registered under its name.  So
every node is reached by some role and key exactly if the registered names are distinct. -/
theorem nodes_selected_iff (hvalid : t.validate = .ok t) (world : σ) :
    ∃ r₀, Router.ofTopology t world = .ok r₀ ∧ (r₀.nodeNames.Nodup ↔ t.NamesApart) ∧
      ∀ (d : Driver σ) (s : Session σ α), let r := (s.run d r₀).2
        r.inTransaction = false →
        (∀ i n, t.registrations[i]? = some n → ∀ role key,
          (r.Selects role key i → Router.connection d role (some key) r = Router.connect d i r) ∧
          (r.Selects role key i ↔ role.takes n = true ∧ key = n.key ∧
            ∀ j m, j < i → t.registrations[j]? = some m → m.name ≠ n.name)) ∧
        ((∀ i < t.registrations.length, ∃ role key, r.Selects role key i) ↔ t.NamesApart) := by
  obtain ⟨r₀, hr₀⟩ : ∃ r₀, Router.ofTopology t world = .ok r₀ := by
    rw [Router.ofTopology, hvalid]
    exact ⟨_, rfl⟩
  refine ⟨r₀, hr₀, ?_, fun d s hfree => ?_⟩
  · rw [Router.nodeNames, ← t.nodup_names_iff, ← (Sound.ofTopology hr₀).registered, List.map_map]
    rfl
  · have hsound := (Session.sound hr₀ d s).2
    refine ⟨fun i n hn role key => ⟨fun hselects => ?_, hsound.selects_iff hn role key⟩,
      hsound.all_selected_iff⟩
    exact Router.connection_of_picked d hfree hselects

/-- A master and another writer, a slave and another reader, each with a name of its own: after a
statement and a transaction all of them are still found. -/
theorem nodes_selected_iff_mixed_spelling :
    let node (dsn : String) : NodeConfig := { NodeConfig.empty with dsn := dsn }
    let t : Topology := { Topology.pair with
      writers := .ofList [("w2", node "mysql:w2")]
      readers := .ofList [("ro", node "mysql:ro")] }
    let d := Script.driver Unit
    let s : Session (Script × Unit) Unit :=
      .call (.selectRaw "q" []) fun _ => .call .begin fun _ => .call .commit fun _ =>
        .finish (.ok ())
    t.validate = .ok t ∧ ∃ r₀, Router.ofTopology t (Script.smooth, ()) = .ok r₀ ∧
      let r := (s.run d r₀).2
      r₀.nodeNames.Nodup ∧ r.inTransaction = false ∧
        ∀ i < t.registrations.length, ∃ role key,
          Router.connection d role (some key) r = Router.connect d i r := by
  intro node t d s
  have hvalid : t.validate = .ok t := rfl
  have hapart : t.NamesApart := fun _ => by
    refine ⟨fun _ => ?_, ?_⟩ <;> decide +kernel
  obtain ⟨r₀, hr₀, hnames, hsession⟩ :=
    nodes_selected_iff (α := Unit) hvalid (Script.smooth, ())
  have hfree : (s.run d r₀).2.inTransaction = false := by
    obtain rfl := Except.ok.inj hr₀
    decide +kernel
  obtain ⟨hnode, hall⟩ := hsession d s hfree
  refine ⟨hvalid, r₀, hr₀, hnames.mpr hapart, hfree, fun i hi => ?_⟩
  obtain ⟨role, key, hselects⟩ := hall.mpr hapart i hi
  exact ⟨role, key, (hnode i _ (List.getElem?_eq_getElem hi) role key).1 hselects⟩

/-- A writer with the usual name of the master, and a reader with the name of a slave: two names are
registered twice, and nothing selects the later node of each. -/
theorem shared_names_hide_nodes :
    let node (dsn : String) : NodeConfig := { NodeConfig.empty with dsn := dsn }
    let t : Topology := { Topology.pair with
      writers := .ofList [("master", node "mysql:w")]
      readers := .ofList [("r", node "mysql:ro")] }
    ∃ r, t.validate = .ok t ∧ Router.ofTopology t (Script.smooth, ()) = .ok r ∧
      r.inTransaction = false ∧
      r.nodeNames = ["writer.master", "writer.master", "reader.r", "reader.r"] ∧
      ∀ role key, ¬r.Selects role key 1 ∧ ¬r.Selects role key 3 := by
  intro node t
  have hnames : t.registrations.map (·.name)
      = ["writer.master", "writer.master", "reader.r", "reader.r"] := by decide +kernel
  obtain ⟨r, hr⟩ : ∃ r, Router.ofTopology t (Script.smooth, ()) = .ok r := ⟨_, rfl⟩
  have hsound := Sound.ofTopology hr
  have hhidden {i : ℕ} (hi : i + 1 < t.registrations.length)
      (hname : t.registrations[i].name = t.registrations[i + 1].name) (role : Role)
      (key : String) : ¬r.Selects role key (i + 1) := fun hselects =>
    ((hsound.selects_iff (List.getElem?_eq_getElem hi) role key).mp hselects).2.2 i _
      (Nat.lt_succ_self i) (List.getElem?_eq_getElem _) hname
  refine ⟨r, rfl, hr, ?_, ?_, fun role key => ⟨?_, ?_⟩⟩
  · obtain rfl := Except.ok.inj hr
    rfl
  · rw [← hnames, ← hsound.registered, List.map_map]
    rfl
  · exact hhidden (i := 0) (by decide +kernel) (by decide +kernel) role key
  · exact hhidden (i := 2) (by decide +kernel) (by decide +kernel) role key

end SqlWeave
