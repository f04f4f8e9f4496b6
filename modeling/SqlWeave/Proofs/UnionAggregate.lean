import SqlWeave.Proofs.BindingOrder
import SqlWeave.Proofs.UnionRedirection

/-!
# Functions over the rows of a union

A function over the rows of a union is taken from the union as a derived table.  The query that it
is made from loses its columns first, as those of a query without a union have no part in the
function, so what stands in the derived table is the union whose first statement selects all
columns.

* `Query.allColumns` — the query with all columns selected.
* `Style.derive` — a function over a finished select.
* `Query.Sourced` — the invariant: values of columns and of the ordering have a column or a term
  that they come from.
* `Call.sourced_run` — one call keeps the invariant.
* `aggregate_wraps_union` — the statement for callers: **the derived table is the query itself**
  where it selects all columns.
* `aggregate_drops_columns` — what happens to other columns and their values.
-/

namespace SqlWeave

/-! ## The specification -/

/-- The select of the same rows with all of their columns. -/
def Query.allColumns (q : Query) : Query :=
  { q with
    kind := .select, columns := none, aggregate := none, bindings := q.bindings.clear .select }

/-- A function over the rows of a finished select, which stands in it as a derived table. -/
def Style.derive (s : Style) (distinct : Bool) (a : Aggregate) (st : Statement) : Statement where
  sql := "select" ++ s.aggregateCall distinct a ++ " from (" ++ st.sql ++ ") as "
    ++ s.segment "temp_table"
  values := st.values

/-! ## The text -/

namespace Style

/-- A function over the rows of a union takes the place of nothing in it. -/
lemma selectText_aggregate (s : Style) {q : Query} (hunion : q.hasUnion = true) (a : Aggregate) :
    s.selectText { q with aggregate := some a }
      = (s.selectText { q with aggregate := none }).map fun sql =>
        "select" ++ s.aggregateCall q.distinct a ++ " from (" ++ sql ++ ") as "
          ++ s.segment "temp_table" := by
  have harms : (!q.arms.isEmpty) = true := hunion
  have htable : ∀ a : Option Aggregate,
      ({ q with aggregate := a } : Query).requireTable = q.requireTable := fun _ => rfl
  rw [selectText_eq, selectText_eq, assemble, assemble, htable, htable]
  cases q.requireTable with
  | error e => rfl
  | ok t =>
      show (if !q.arms.isEmpty then _ else _) = _
      rw [if_pos harms]
      rfl

/-- All columns are what a query without a list of columns selects. -/
lemma selectText_columns (s : Style) (q : Query) :
    s.selectText { q with columns := some [.name "*"] }
      = s.selectText { q with columns := none } := by
  rw [selectText_eq, selectText_eq]
  have hcolumns : s.selectedTexts (some [.name "*"]) = s.selectedTexts none := by
    simp [selectedTexts, columnTexts]
    rfl
  show s.assemble _ { s.selectParts q with columns := s.selectedTexts (some [.name "*"]) } = _
  rw [hcolumns]
  rfl

end Style

/-! ## Where values come from -/

namespace Query

/-- **The invariant.**  Only a column that is more than a name has values, and only a term of the
ordering has values of the ordering. -/
structure Sourced (q : Query) : Prop where
  columns : (∀ c ∈ q.columns.getD [], ∃ name, c = .name name) → q.bindings.select = []
  orders : q.orders = [] → q.bindings.order = []

/-- The clauses that the invariant is about. -/
def sources (q : Query) : Option (List Column) × List Value × List Order × List Value :=
  (q.columns, q.bindings.select, q.orders, q.bindings.order)

/-- A new query has neither columns nor an ordering, and so no values of them. -/
lemma sourced_fresh (q : Query) : q.fresh.Sourced :=
  ⟨fun _ => rfl, fun _ => rfl⟩

namespace Sourced

variable {q q' : Query}

/-- The invariant looks at four parts of a query and at nothing else. -/
lemma congr (h : q.Sourced) (heq : q'.sources = q.sources) : q'.Sourced := by
  simp only [sources, Prod.mk.injEq] at heq
  obtain ⟨hcolumns, hselect, horders, horder⟩ := heq
  refine ⟨fun hnames => ?_, fun hnone => ?_⟩
  · rw [hselect]
    exact h.columns (hcolumns ▸ hnames)
  · rw [horder]
    exact h.orders (horders ▸ hnone)

/-! ### Columns -/

/-- Selecting other columns clears the values of the old ones. -/
lemma select (h : q.Sourced) (columns : List Column) : (q.select columns).Sourced :=
  ⟨fun _ => rfl, h.orders⟩

/-- More columns may only make the premise harder to meet. -/
lemma addColumns (h : q.Sourced) (columns : List Column) : (q.addColumns columns).Sourced where
  columns hnames := h.columns fun c hc => hnames c (List.mem_append_left _ hc)
  orders := h.orders

/-- A column that is more than a name may bring values. -/
lemma source (h : q.Sourced) {c : Column} (hname : ∀ name, c ≠ .name name)
    (hc : c ∈ q'.columns.getD []) (horders : q'.orders = q.orders)
    (horder : q'.bindings.order = q.bindings.order) : q'.Sourced where
  columns hnames := by
    obtain ⟨name, rfl⟩ := hnames c hc
    exact absurd rfl (hname name)
  orders hnone := by
    rw [horder]
    exact h.orders (horders ▸ hnone)

/-- SQL text is a column that is more than a name, whether it brings values or not. -/
lemma addRaw (h : q.Sourced) (sql : String) (values : List Value) :
    (q.addRaw sql values).Sourced :=
  h.source (c := .raw sql) (by simp) (List.mem_append_right _ List.mem_cons_self) rfl rfl

lemma addSub (h : q.Sourced) (label : String) (build : Query → Query) :
    (q.addSub label build).Sourced :=
  h.source (c := .sub (build q.freshSub) label) (by simp)
    (List.mem_append_right _ List.mem_cons_self) rfl rfl

/-! ### Order -/

/-- One more term, of the query or of its union, and no values. -/
lemma addOrder (h : q.Sourced) (o : Order) : (q.addOrder o).Sourced := by
  rw [Query.addOrder]
  split_ifs
  · exact h.congr rfl
  · exact ⟨h.columns, fun hnone => absurd hnone (by simp)⟩

/-- A direction that is refused adds no term and no value. -/
lemma orderByText (h : q.Sourced) (column direction : String) :
    (q.orderByText column direction).Sourced := by
  unfold Query.orderByText
  split
  · exact h.addOrder _
  · exact h.congr rfl

/-- The values of a term go where the term goes. -/
lemma orderByRaw (h : q.Sourced) (sql : String) (values : List Value) :
    (q.orderByRaw sql values).Sourced := by
  have hraw : q.orderByRaw sql values = (q.bindOrder values).addOrder (.raw sql) := rfl
  rw [hraw]
  cases hunion : q.hasUnion with
  | true =>
      have hbound : q.bindOrder values
          = { q with bindings := q.bindings.extendUnionOrder values } := by
        rw [Query.bindOrder, if_pos hunion]
      have hsourced : (q.bindOrder values).Sourced := h.congr (by rw [hbound]; rfl)
      exact hsourced.addOrder _
  | false =>
      have hbound : q.bindOrder values = q.bindAll .order values := by
        rw [Query.bindOrder, if_neg (by simp [hunion])]
        rfl
      have hunited : ¬ (q.bindAll .order values).hasUnion = true := by
        show ¬ q.hasUnion = true
        simp [hunion]
      rw [hbound, Query.addOrder, if_neg hunited]
      exact ⟨h.columns, fun hnone => absurd hnone (by simp)⟩

/-! ### Other queries in the place of one -/

/-- Columns are taken away together with their values, and without a union the ordering too. -/
lemma toAggregate (h : q.Sourced) (function : String) (columns : List String) :
    (q.toAggregate function columns).Sourced := by
  simp only [Query.toAggregate]
  split_ifs
  · exact ⟨fun _ => rfl, fun _ => rfl⟩
  · exact ⟨fun _ => rfl, h.orders⟩

lemma insertRow (h : q.Sourced) (pairs : List (String × Param)) : (q.insertRow pairs).Sourced := by
  simp only [Query.insertRow]
  split_ifs
  · exact h.congr rfl
  · split <;> exact h.congr rfl

end Sourced

end Query

/-! ### Other clauses -/

/-- Every elementary change but those to the columns and the ordering leaves the four parts alone.
An arm brings values, but to the category of the union. -/
lemma Family.Step.sources_eq {f : Family} {q q' : Query} (h : f.Step q q')
    (hcolumns : f ≠ .columns) (horders : f ≠ .orders) : q'.sources = q.sources := by
  cases h with
  | addArm _ arm all =>
      obtain ⟨us, hus⟩ := q.bindings.exists_extend_union arm.bindings.flatten
      have hbindings : (q.addArm arm all).bindings = { q.bindings with union := us } := hus
      simp only [Query.sources, hbindings]
      rfl
  | select | addColumns | bindSelect => exact absurd rfl hcolumns
  | addOrder | addUnionOrder | bindOrder | bindUnionOrder => exact absurd rfl horders
  | _ => rfl

/-- A call on another clause changes neither the columns nor the ordering. -/
lemma Family.Steps.sources_eq {f : Family} {q q' : Query} (h : f.Steps q q')
    (hcolumns : f ≠ .columns) (horders : f ≠ .orders) : q'.sources = q.sources :=
  h.unchanged fun hstep => hstep.sources_eq hcolumns horders

/-- A call on another clause keeps the invariant, as it does not touch what the invariant is
about. -/
lemma Call.sourced_of_family {call : Call} {f : Family} {q : Query} (h : q.Sourced)
    (hcall : call.family? = some f) (hcolumns : f ≠ .columns) (horders : f ≠ .orders) :
    (call.run q).Sourced :=
  h.congr ((call.steps_run q hcall).sources_eq hcolumns horders)

mutual

/-- **One call.** -/
theorem Call.sourced_run : ∀ (call : Call) {q : Query}, q.Sourced → (call.run q).Sourced
  | .onlyIf true calls, _, h => Call.sourced_runAll calls h
  | .onlyIf false _, _, h => h
  -- columns
  | .select _, _, h => h.select _
  | .addColumns _, _, h => h.addColumns _
  | .addRaw sql values, _, h => h.addRaw sql values
  | .addSub label _, _, h => h.addSub label _
  -- orderings
  | .orderBy _ _, _, h | .orderRandomly _, _, h => h.addOrder _
  | .orderByText column direction, _, h => h.orderByText column direction
  | .orderByRaw sql values, _, h => h.orderByRaw sql values
  -- another query in its place
  | .toAggregate function columns, _, h => h.toAggregate function columns
  | .toFresh, q, _ => q.sourced_fresh
  -- changes
  | .insertRow pairs, _, h => h.insertRow pairs
  | .insertReturning pairs _, _, h => (h.insertRow pairs).congr rfl
  | .insertColumns _, _, h | .insertValues _, _, h | .setAssignments _, _, h | .makeDelete, _, h =>
      h.congr rfl
  -- other clauses
  | .onTable _, _, h | .onRaw _, _, h | .makeDistinct, _, h | .onWriter, _, h
  | .whereEq _ _ _, _, h | .whereCompare _ _ _ _, _, h | .whereGroup _ _, _, h
  | .whereAll _ _, _, h | .addGroup _ _, _, h | .whereRaw _ _ _, _, h | .whereIn _ _ _ _, _, h
  | .whereInSub _ _ _ _, _, h | .whereNull _ _ _, _, h | .whereBetween _ _ _ _ _, _, h
  | .whereSub _ _ _ _, _, h | .whereExists _ _ _, _, h | .whereColumns _ _ _ _, _, h
  | .addJoin _ _ _, _, h | .groupBy _, _, h | .groupByRaw _, _, h | .having _ _ _ _, _, h
  | .havingRaw _ _ _, _, h | .havingBetween _ _ _, _, h | .setLimit _, _, h | .setOffset _, _, h
  | .forPage _ _, _, h | .setLock _, _, h | .addArm _ _, _, h | .addArmSub _ _, _, h =>
      Call.sourced_of_family h rfl (by decide) (by decide)

/-- **A run.** -/
theorem Call.sourced_runAll : ∀ (calls : List Call) {q : Query}, q.Sourced →
    (Call.runAll calls q).Sourced
  | [], _, h => h
  | call :: calls, _, h => Call.sourced_runAll calls (call.sourced_run h)

end

/-- Every program's query has it, from the empty query on. -/
theorem Recipe.sourced_build (r : Recipe) : r.build.Sourced := by
  cases r with
  | mk style calls => exact Call.sourced_runAll calls (Query.empty style).sourced_fresh

/-! ## The statement -/

/-- With no ordering to drop, a function over the rows does the same with a union and without one:
it takes the columns away. -/
lemma Query.toAggregate_eq {q : Query} (hsourced : q.Sourced) (horders : q.orders = [])
    (function : String) (columns : List String) : q.toAggregate function columns
      = { q.allColumns with aggregate := some ⟨function, columns⟩ } := by
  have horder : q.bindings.order = [] := hsourced.orders horders
  have hclear : (q.bindings.clear .select).clear .order = q.bindings.clear .select := by
    simp [Bindings.clear, Bindings.set, Bindings.put, horder]
  simp only [toAggregate, allColumns]
  split_ifs
  · rw [hclear, ← horders]
  · rfl

/-- A select is checked and then written in the style of its query. -/
lemma Query.compile_of_select {q : Query} (hkind : q.kind = .select) :
    q.compile = q.validate >>= fun _ => q.style.select q := by
  rw [compile, hkind]

/-- The check does not look at the function, so what is written is a function over the select
without it, or the same error. -/
lemma Query.compile_aggregate {q : Query} (hunion : q.hasUnion = true) (hkind : q.kind = .select)
    (a : Aggregate) : ({ q with aggregate := some a } : Query).compile
      = ({ q with aggregate := none } : Query).compile.map (q.style.derive q.distinct a) := by
  have hvalidate : ∀ a : Option Aggregate,
      ({ q with aggregate := a } : Query).validate = q.validate := fun _ => rfl
  rw [compile_of_select (q := { q with aggregate := some a }) hkind,
    compile_of_select (q := { q with aggregate := none }) hkind, hvalidate, hvalidate,
    Style.select, Style.select, q.style.selectText_aggregate hunion]
  cases q.validate with
  | error e => rfl
  | ok u => cases q.style.selectText { q with aggregate := none } <;> rfl

/-- A select of all columns is its own select of all columns. -/
lemma Query.compile_allColumns {q : Query} (hsourced : q.Sourced) (hkind : q.kind = .select)
    (haggregate : q.aggregate = none)
    (hcolumns : q.columns = none ∨ q.columns = some [.name "*"]) :
    q.allColumns.compile = q.compile := by
  have hselect : q.bindings.select = [] := by
    refine hsourced.columns fun c hc => ?_
    rcases hcolumns with hcolumns | hcolumns
    · simp [hcolumns] at hc
    · exact ⟨"*", by simpa [hcolumns] using hc⟩
  have hclear : q.bindings.clear .select = q.bindings := by
    simp [Bindings.clear, Bindings.set, Bindings.put, ← hselect]
  have hall : q.allColumns = { q with columns := none } := by
    rw [allColumns, hclear, ← hkind, ← haggregate]
  have htext : q.style.selectText { q with columns := none } = q.style.selectText q := by
    have hsame : ∀ cs, q.columns = cs → ({ q with columns := cs } : Query) = q := by
      rintro _ rfl
      cases q
      rfl
    rcases hcolumns with hcolumns | hcolumns
    · rw [hsame _ hcolumns]
    · rw [← q.style.selectText_columns, hsame _ hcolumns]
  rw [hall, compile_of_select (q := { q with columns := none }) hkind, compile_of_select hkind,
    Style.select, Style.select, htext]
  rfl

/-- **A function over the rows of a union**, whatever is called to make the query, as long as it has
no ordering of its own.  The derived table is the select of all columns of the query with the same
united statements and the same values, and it is the query itself if it is a select that selects all
columns. -/
theorem aggregate_wraps_union {r : Recipe} (hunion : r.build.hasUnion = true)
    (horders : r.build.orders = []) (function : String) (columns : List String) :
    let derive := r.style.derive r.build.distinct ⟨function, columns⟩
    (r.build.toAggregate function columns).compile = r.build.allColumns.compile.map derive ∧
    (r.build.kind = .select → r.build.aggregate = none →
      (r.build.columns = none ∨ r.build.columns = some [.name "*"]) →
      (r.build.toAggregate function columns).compile = r.build.compile.map derive) := by
  intro derive
  have hwraps : (r.build.toAggregate function columns).compile
      = r.build.allColumns.compile.map derive := by
    rw [Query.toAggregate_eq r.sourced_build horders]
    have hstyle : derive = r.build.style.derive r.build.distinct ⟨function, columns⟩ := by
      rw [r.style_build]
    rw [hstyle]
    exact Query.compile_aggregate (q := r.build.allColumns) hunion rfl ⟨function, columns⟩
  refine ⟨hwraps, fun hkind haggregate hcolumns => ?_⟩
  rw [hwraps, Query.compile_allColumns r.sourced_build hkind haggregate hcolumns]

/-- A distinct select with groups, a page, a lock and an ordered union, all of whose parts have
values. -/
theorem aggregate_wraps_union_paged :
    let program : Recipe := ⟨.plain .mysql, [.onTable "t", .select [.name "*"], .makeDistinct,
      .addJoin .left "u" [.on "u.id" "=" "t.id" .and, .whereEq "u.c" (.value (.int 1)) .and],
      .whereEq "a" (.value (.int 2)) .and, .groupBy [.name "b"],
      .having "b" ">" (.value (.int 3)) .and, .setLimit 9, .setLock .exclusive,
      .addArmSub true [.onTable "v", .select [.name "c"], .whereEq "d" (.value (.int 4)) .and],
      .orderByRaw "f(?)" [.int 5], .setLimit 7]⟩
    let derive := program.style.derive program.build.distinct ⟨"max", ["b", "c"]⟩
    program.build.hasUnion = true ∧ program.build.orders = [] ∧
      ∃ st, program.build.compile = .ok st ∧ st.values.length = 5 ∧
        (program.build.toAggregate "max" ["b", "c"]).compile = .ok (derive st) := by
  intro program derive
  have hunion : program.build.hasUnion = true := by decide +kernel
  have horders : program.build.orders = [] := by decide +kernel
  have hcolumns : program.build.columns = some [.name "*"] := rfl
  obtain ⟨st, hst, hlength⟩ : ∃ st, program.build.compile = .ok st ∧ st.values.length = 5 :=
    exists_ok_of_toOption (by decide +kernel)
  have hwraps := (aggregate_wraps_union hunion horders "max" ["b", "c"]).2 rfl rfl (Or.inr hcolumns)
  exact ⟨hunion, horders, st, hst, hlength, by rw [hwraps, hst]; rfl⟩

/-- Columns of the first statement of a union are not those of the derived table, and their values
are lost. -/
theorem aggregate_drops_columns :
    let program : Recipe := ⟨.plain .ansi, [.onTable "t", .select [.name "a"],
      .addRaw "b + ?" [.int 1], .addArmSub false [.onTable "u", .select [.name "c", .name "d"]]]⟩
    let derive := program.style.derive program.build.distinct ⟨"count", ["*"]⟩
    (program.build.error = none ∧ program.build.hasUnion = true ∧ program.build.orders = []) ∧
      program.build.compile.toOption.map (fun st => ((derive st).sql, (derive st).values.length))
        = some ("select count(*) as aggregate from (select \"a\", b + ? from \"t\" union "
          ++ "select \"c\", \"d\" from \"u\") as \"temp_table\"", 1) ∧
      (program.build.toAggregate "count" ["*"]).compile.toOption.map
          (fun st => (st.sql, st.values.length))
        = some ("select count(*) as aggregate from (select * from \"t\" union "
          ++ "select \"c\", \"d\" from \"u\") as \"temp_table\"", 0) := by
  decide +kernel

end SqlWeave
