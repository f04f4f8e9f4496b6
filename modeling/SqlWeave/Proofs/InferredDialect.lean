import SqlWeave.Proofs.RoutingInvariant

/-!
# The dialect that is inferred

Without a driver of its own a topology takes that of the first node that names one.  Which nodes are
asked, and in which order, has nothing to do with the mode; which of them are registered has.  So a
section that the mode does not use, left over from another mode, may decide in which dialect every
statement is written.

* `Topology.askedFirst` — the nodes that are asked although they are not registered, before those
  that are.
* `Topology.driverName_of_registered` — the driver, where all registered nodes name one.
* `inferred_dialect_iff` — the statement for every session: the dialect is that of the registered
  nodes exactly if none of the nodes asked first names a driver of another dialect.
-/

namespace SqlWeave

variable {σ α : Type} {t : Topology} {name : String}

namespace Topology

/-- The nodes of sections that the mode does not use and that are asked for a driver before those
that it uses. -/
def askedFirst (t : Topology) : List NodeConfig :=
  match t.mode with
  | .single => []
  | .masterSlave => t.solo.toList
  | .cluster =>
    t.solo.toList ++ t.master.toList ++ t.writers.values ++ t.slaves.values ++ t.readers.values

/-- The registered nodes are asked next, in the order of registration. -/
lemma allNodes_eq (t : Topology) :
    ∃ rest, t.allNodes = t.askedFirst ++ t.registrations.map (·.config) ++ rest := by
  cases hmode : t.mode with
  | single =>
    refine ⟨t.master.toList ++ t.writers.values ++ t.slaves.values ++ t.readers.values
      ++ t.nodes.values, ?_⟩
    simp [allNodes, askedFirst, registrations, hmode, Function.comp_def]
  | masterSlave =>
    refine ⟨t.nodes.values, ?_⟩
    simp [allNodes, askedFirst, registrations, hmode, NameMap.values, Function.comp_def]
  | cluster =>
    refine ⟨[], ?_⟩
    simp [allNodes, askedFirst, registrations, hmode, NameMap.values, Function.comp_def]

/-- **The driver that is inferred** where all registered nodes name the same one: that of the first
node that is asked before them and names one, or else theirs. -/
lemma driverName_of_registered (hvalid : t.validate = .ok t) (hdriver : t.driver = none)
    (hnodes : ∀ n ∈ t.registrations, n.config.driver? = some name) :
    t.driverName = (t.askedFirst.findSome? NodeConfig.driver?).getD name := by
  obtain ⟨rest, hall⟩ := t.allNodes_eq
  -- A checked topology has registered nodes, so what comes behind them is not asked.
  have hregistered :
      (t.registrations.map (·.config)).findSome? NodeConfig.driver? = some name := by
    obtain ⟨n, hn, -⟩ := exists_writes hvalid
    cases hlist : t.registrations with
    | nil => simp [hlist] at hn
    | cons first others =>
      rw [List.map_cons, List.findSome?_cons_of_isSome]
      · exact hnodes first (by simp [hlist])
      · simp [hnodes first (by simp [hlist])]
  rw [driverName, hdriver, Option.none_or, hall, List.findSome?_append, List.findSome?_append,
    hregistered]
  cases t.askedFirst.findSome? NodeConfig.driver? <;> rfl

end Topology

/-- **When the inferred dialect is that of the registered nodes**, for every topology that passes
its check and names no driver, if all registered nodes name the same one, and after every session.
It is the dialect of the first node that is asked before them and names a driver, if there is one.
So it is theirs exactly if that driver speaks the same dialect, and always where one node does
everything. -/
theorem inferred_dialect_iff (hvalid : t.validate = .ok t) (hdriver : t.driver = none)
    (hnodes : ∀ n ∈ t.registrations, n.config.driver? = some name) (world : σ) :
    ∃ r₀, Router.ofTopology t world = .ok r₀ ∧ ∀ (d : Driver σ) (s : Session σ α),
      let style := (s.run d r₀).2.style
      let asked := t.askedFirst.findSome? NodeConfig.driver?
      style = ⟨Dialect.ofDriver (asked.getD name), t.quoting, t.tablePrefix⟩ ∧
      (style.dialect = Dialect.ofDriver name ↔
        ∀ other, asked = some other → Dialect.ofDriver other = Dialect.ofDriver name) ∧
      (t.mode = .single → style.dialect = Dialect.ofDriver name) := by
  obtain ⟨r₀, hr₀⟩ : ∃ r₀, Router.ofTopology t world = .ok r₀ := by
    rw [Router.ofTopology, hvalid]
    exact ⟨_, rfl⟩
  refine ⟨r₀, hr₀, fun d s => ?_⟩
  have hstyle : (s.run d r₀).2.style = ⟨Dialect.ofDriver
      ((t.askedFirst.findSome? NodeConfig.driver?).getD name), t.quoting, t.tablePrefix⟩ := by
    rw [Router.style, (Session.sound hr₀ d s).2.topology, Topology.style, Topology.dialect,
      Topology.driverName_of_registered hvalid hdriver hnodes]
  have hsingle : t.mode = .single → t.askedFirst.findSome? NodeConfig.driver? = none :=
    fun hmode => by simp [Topology.askedFirst, hmode]
  simp only [hstyle, true_and]
  generalize t.askedFirst.findSome? NodeConfig.driver? = asked at hsingle ⊢
  refine ⟨?_, fun hmode => by rw [hsingle hmode, Option.getD_none]⟩
  cases asked with
  | none => simp
  | some other => simp

/-- A cluster with the section of a single node left over, which names the driver by another of its
names: statements are still written in the dialect of the cluster. -/
theorem inferred_dialect_iff_other_spelling :
    let node (dsn : String) : NodeConfig := { NodeConfig.empty with dsn := dsn }
    let t : Topology := { Topology.empty with
      mode := .cluster
      solo := some (node "postgres:old")
      nodes := ⟨[("a", node "pgsql:a"), ("b", node "pgsql:b")], by decide +kernel⟩ }
    let d := Script.driver Unit
    let s : Session (Script × Unit) Unit :=
      .call (.executeRaw "x" []) fun _ => .finish (.ok ())
    t.validate = .ok t ∧ t.driver = none ∧
      (∀ n ∈ t.registrations, n.config.driver? = some "pgsql") ∧
      ∃ r₀, Router.ofTopology t (Script.smooth, ()) = .ok r₀ ∧
        (s.run d r₀).2.style.dialect = .postgres := by
  intro node t d s
  have hvalid : t.validate = .ok t := rfl
  have hnodes : ∀ n ∈ t.registrations, n.config.driver? = some "pgsql" := by decide +kernel
  refine ⟨hvalid, rfl, hnodes, ?_⟩
  obtain ⟨r₀, hr₀, hsession⟩ :=
    inferred_dialect_iff (α := Unit) hvalid rfl hnodes (Script.smooth, ())
  obtain ⟨-, hsame, -⟩ := hsession d s
  refine ⟨r₀, hr₀, hsame.mpr fun other hother => ?_⟩
  have hasked : t.askedFirst.findSome? NodeConfig.driver? = some "postgres" := by decide +kernel
  rw [← Option.some.inj (hasked.symm.trans hother)]
  decide +kernel

/-- The section of a single node is left over in a cluster of another driver, and its dialect is the
one of all statements. -/
theorem unused_section_sets_dialect :
    let node (dsn : String) : NodeConfig := { NodeConfig.empty with dsn := dsn }
    let t : Topology := { Topology.empty with
      mode := .cluster
      solo := some (node "mysql:a")
      nodes := .ofList [("n", node "pgsql:b")] }
    ∃ r, t.validate = .ok t ∧ t.driver = none ∧
      (∀ n ∈ t.registrations, n.config.driver? = some "pgsql") ∧
      Router.ofTopology t (Script.smooth, ()) = .ok r ∧
      r.style.dialect = .mysql ∧ Dialect.ofDriver "pgsql" = .postgres :=
  ⟨_, rfl, rfl, by decide +kernel, rfl, by decide +kernel, by decide +kernel⟩

end SqlWeave
