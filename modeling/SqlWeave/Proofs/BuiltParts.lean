import SqlWeave.Proofs.UnionRedirection
import SqlWeave.Proofs.WellFormed

/-!
# Where the parts of a query come from

A part is handed over to a query as a whole, and no later call changes it.  So what holds of all
that calls make of a new query holds of every part of a program's query, at any depth.

* `Query.Built` — what calls make of a new query.
* `Query.BuiltInside` — the invariant: the clauses hold nothing else, and so do those of the queries
  that they hold.
* `Recipe.built_of_within` — **every part of a program's query is built**.
* `Query.Built.redirects` — so without a union no part has an ordering or a page of one.
-/

namespace SqlWeave

/-! ## The invariant -/

/-- A query that says no more than its style, its table and whether it is a join. -/
def Query.New (q : Query) : Prop :=
  q.fresh = q

/-- What calls make of a new query, or of the predicates of a new join. -/
inductive Query.Built : Query → Prop
  | calls {b : Query} (hb : b.New) (calls : List Call) : Built (Call.runAll calls b)
  | join {b : Query} (hb : b.New) (calls : List JoinCall) : Built (JoinCall.runAll calls b)

/-- Whether a query and every query inside of it is built. -/
def Query.BuiltThroughout (q : Query) : Prop :=
  ∀ part : Query, part.Within q → part.Built

/-- Whether a predicate holds built queries only. -/
def Predicate.BuiltInside (p : Predicate) : Prop :=
  ∀ part ∈ p.query?, part.BuiltThroughout

/-- Whether a column holds built queries only. -/
def Column.BuiltInside (c : Column) : Prop :=
  ∀ part ∈ c.query?, part.BuiltThroughout

namespace Query

/-- The invariant, clause by clause. -/
structure BuiltInside (q : Query) : Prop where
  columns : ∀ c ∈ q.columns.getD [], c.BuiltInside
  joins : ∀ j ∈ q.joins, j.query.BuiltThroughout
  predicates : ∀ p ∈ q.predicates, p.BuiltInside
  groups : ∀ c ∈ q.groups, c.BuiltInside
  arms : ∀ a ∈ q.arms, a.query.BuiltThroughout

variable {q : Query}

/-- A query for a group or in the place of another one. -/
lemma new_fresh (q : Query) : q.fresh.New :=
  rfl

lemma new_freshSub (q : Query) : q.freshSub.New :=
  rfl

lemma new_freshJoin (q : Query) (table : String) : (q.freshJoin table).New :=
  rfl

/-- A new query has no clauses, so nothing is inside of it. -/
lemma New.builtInside (h : q.New) : q.BuiltInside := by
  have hfresh : q.fresh.BuiltInside := by constructor <;> simp [fresh, empty]
  exact h ▸ hfresh

namespace BuiltInside

/-- What stands directly inside of a query is built, and all that is inside of that. -/
lemma throughout_embedded (h : q.BuiltInside) {part : Query} (hpart : part ∈ q.embedded) :
    part.BuiltThroughout := by
  simp only [embedded, List.mem_append, List.mem_filterMap, List.mem_map] at hpart
  rcases hpart with (((⟨c, hc, hq⟩ | ⟨j, hj, rfl⟩) | ⟨p, hp, hq⟩) | ⟨c, hc, hq⟩) | ⟨a, ha, rfl⟩
  · exact h.columns c hc part hq
  · exact h.joins j hj
  · exact h.predicates p hp part hq
  · exact h.groups c hc part hq
  · exact h.arms a ha

/-- **The invariant is enough**, together with the query's own origin. -/
lemma throughout (h : q.BuiltInside) (hq : q.Built) : q.BuiltThroughout := by
  intro part hpart
  rcases Relation.ReflTransGen.cases_head hpart with rfl | ⟨next, hnext, hrest⟩
  · exact hq
  · exact h.throughout_embedded hnext part hrest

/-! ### What the operations add -/

lemma bindAll (h : q.BuiltInside) (c : Category) (values : List Value) :
    (q.bindAll c values).BuiltInside :=
  { h with }

lemma failWith (h : q.BuiltInside) (e : Option QueryError) : (q.failWith e).BuiltInside :=
  { h with }

/-- Absorbing takes values and the note of a part and not the part. -/
lemma absorb (h : q.BuiltInside) (sub : Query) (c : Category) : (q.absorb sub c).BuiltInside :=
  { h with }

/-- A predicate brings the query that it holds, which has to be built throughout. -/
lemma addPredicate (h : q.BuiltInside) {p : Predicate} (hp : p.BuiltInside) :
    (q.addPredicate p).BuiltInside :=
  { h with
    predicates := List.forall_mem_append.mpr ⟨h.predicates, List.forall_mem_singleton.mpr hp⟩ }

/-- Most predicates hold no query. -/
lemma addPlain (h : q.BuiltInside) {p : Predicate} (hp : p.query? = none) :
    (q.addPredicate p).BuiltInside :=
  h.addPredicate (by simp [Predicate.BuiltInside, hp])

/-- A predicate on a subquery. -/
lemma addOperand (h : q.BuiltInside) {sub : Query} (hsub : sub.BuiltThroughout) {p : Predicate}
    (hp : p.query? = some sub) : ((q.absorb sub .filter).addPredicate p).BuiltInside :=
  (h.absorb sub .filter).addPredicate (by simpa [Predicate.BuiltInside, hp] using hsub)

lemma addColumns (h : q.BuiltInside) {columns : List Column}
    (hcolumns : ∀ c ∈ columns, c.BuiltInside) : (q.addColumns columns).BuiltInside :=
  { h with columns := List.forall_mem_append.mpr ⟨h.columns, hcolumns⟩ }

lemma groupBy (h : q.BuiltInside) {columns : List Column}
    (hcolumns : ∀ c ∈ columns, c.BuiltInside) : (q.groupBy columns).BuiltInside :=
  { h with groups := List.forall_mem_append.mpr ⟨h.groups, hcolumns⟩ }

lemma addArm (h : q.BuiltInside) {arm : Query} (harm : arm.BuiltThroughout) (all : Bool) :
    (q.addArm arm all).BuiltInside :=
  { h with arms := List.forall_mem_append.mpr ⟨h.arms, List.forall_mem_singleton.mpr harm⟩ }

/-- A comparison holds no query, whichever predicate it ends as. -/
lemma addComparison (h : q.BuiltInside) (column operator : String) (operand : Param)
    (c : Conjunction) : (q.addComparison column operator operand c).BuiltInside := by
  simp only [Query.addComparison]
  split_ifs
  · exact h.addPlain rfl
  · exact h.addPlain rfl
  · exact h.failWith _
  · exact (h.bindAll .filter _).addPlain rfl

/-- With any operator, also one that is not listed. -/
lemma whereCompare (h : q.BuiltInside) (column operator : String) (operand : Param)
    (c : Conjunction) : (q.whereCompare column operator operand c).BuiltInside := by
  rw [Query.whereCompare]
  split_ifs <;> exact h.addComparison ..

lemma whereColumns (h : q.BuiltInside) (first operator second : String) (c : Conjunction) :
    (q.whereColumns first operator second c).BuiltInside := by
  rw [Query.whereColumns]
  split_ifs
  · exact h.addPlain rfl
  · exact h.failWith _

/-- A group is the predicates of a query that is handed over as a whole. -/
lemma addGroup (h : q.BuiltInside) {inner : Query} (hinner : inner.BuiltThroughout)
    (c : Conjunction) : (q.addGroup inner c).BuiltInside := by
  simp only [Query.addGroup]
  split_ifs
  · exact h.failWith _
  · exact ((h.failWith _).bindAll .filter _).addPredicate
      (by simpa [Predicate.BuiltInside, Predicate.query?] using hinner)

/-- A group of equalities is what the single comparisons make. -/
lemma whereAll (h : q.BuiltInside) (pairs : List (String × Param)) (c : Conjunction) :
    (q.whereAll pairs c).BuiltInside := by
  have hfold : ∀ inner : Query, inner.BuiltInside →
      let group := pairs.foldl (fun q pair => q.whereEq pair.1 pair.2 c) inner
      group.BuiltInside ∧ ∃ calls, group = Call.runAll calls inner := by
    induction pairs with
    | nil => exact fun _ hinner => ⟨hinner, [], rfl⟩
    | cons pair pairs ih =>
        intro inner hinner
        obtain ⟨hinside, calls, heq⟩ := ih _ (hinner.addComparison pair.1 "=" pair.2 c)
        exact ⟨hinside, .whereEq pair.1 pair.2 c :: calls, heq⟩
  obtain ⟨hinside, calls, heq⟩ := hfold q.fresh q.new_fresh.builtInside
  exact h.addGroup (hinside.throughout (heq ▸ .calls q.new_fresh calls)) c

end BuiltInside

end Query

/-! ## Calls about nothing of this -/

/-- Whether a clause holds queries. -/
def Family.holdsQueries : Family → Bool
  | .columns | .joins | .predicates | .groups | .unions => true
  | _ => false

/-- A step of a family that holds no queries changes other clauses only. -/
lemma Family.Step.builtInside {f : Family} {q q' : Query} (h : f.Step q q')
    (hf : f.holdsQueries = false) (hq : q.BuiltInside) : q'.BuiltInside := by
  cases h with
  | select | addColumns | bindSelect | addJoin | bindJoin | addPredicate | bindFilter | groupBy
  | addArm => cases hf
  | _ => exact { hq with }

lemma Family.Steps.builtInside {f : Family} {q q' : Query} (h : f.Steps q q')
    (hf : f.holdsQueries = false) (hq : q.BuiltInside) : q'.BuiltInside :=
  h.invariant (fun hstep => hstep.builtInside hf) hq

/-- A call on a clause that holds no queries. -/
lemma Call.builtInside_of_family {call : Call} {f : Family} {q : Query} (h : q.BuiltInside)
    (hcall : call.family? = some f) (hf : f.holdsQueries = false) : (call.run q).BuiltInside :=
  (call.steps_run q hcall).builtInside hf h

lemma Query.BuiltInside.insertRow {q : Query} (h : q.BuiltInside) (pairs : List (String × Param)) :
    (q.insertRow pairs).BuiltInside := by
  simp only [Query.insertRow]
  split_ifs
  · exact { h with }
  · split <;> exact { h with }

/-- A function over the rows replaces the columns by names. -/
lemma Query.BuiltInside.toAggregate {q : Query} (h : q.BuiltInside) (function : String)
    (columns : List String) : (q.toAggregate function columns).BuiltInside := by
  simp only [Query.toAggregate]
  split_ifs <;> exact { h with columns := by simp }

/-! ## A run keeps the invariant -/

mutual

/-- **One call.** -/
theorem Call.builtInside_run : ∀ (call : Call) {q : Query}, q.BuiltInside →
    (call.run q).BuiltInside
  | .select columns, q, h => { h with columns := Selection.builtInside_columns columns }
  | .addColumns columns, q, h => h.addColumns (Selection.builtInside_columns columns)
  | .addRaw sql values, q, h => by
      have hcolumns : (q.addColumns [.raw sql]).BuiltInside :=
        h.addColumns (by simp [Column.BuiltInside, Column.query?])
      exact hcolumns.bindAll .select values
  | .addSub _ calls, q, h => by
      have hsub := Call.builtInside_runAll calls q.new_freshSub.builtInside
      exact (h.absorb _ _).addColumns
        (by simpa [Column.BuiltInside, Column.query?] using
          hsub.throughout (.calls q.new_freshSub calls))
  | .whereEq column operand c, q, h => h.addComparison column "=" operand c
  | .whereCompare column operator operand c, q, h => h.whereCompare column operator operand c
  | .whereGroup calls c, q, h =>
      have hinner := Call.builtInside_runAll calls q.new_fresh.builtInside
      h.addGroup (hinner.throughout (.calls q.new_fresh calls)) c
  | .whereAll pairs c, q, h => h.whereAll pairs c
  | .addGroup recipe c, q, h => h.addGroup recipe.builtThroughout_build c
  | .onlyIf condition calls, q, h => by
      rw [Call.run]
      split_ifs
      · exact Call.builtInside_runAll calls h
      · exact h
  | .whereRaw _ values _, _, h => (h.bindAll .filter values).addPlain rfl
  | .whereIn _ _ _ _, _, h => (h.bindAll .filter _).addPlain rfl
  | .whereInSub _ calls _ _, q, h =>
      have hsub := Call.builtInside_runAll calls q.new_freshSub.builtInside
      h.addOperand (hsub.throughout (.calls q.new_freshSub calls)) rfl
  | .whereNull _ _ _, _, h => h.addPlain rfl
  | .whereBetween _ _ _ _ _, _, h => ((h.bindAll .filter _).bindAll .filter _).addPlain rfl
  | .whereSub _ _ calls _, q, h => by
      have hsub := Call.builtInside_runAll calls q.new_freshSub.builtInside
      rw [Call.run, Query.whereSub]
      split_ifs
      · exact h.addOperand (hsub.throughout (.calls q.new_freshSub calls)) rfl
      · exact h.failWith _
  | .whereExists calls _ _, q, h =>
      have hsub := Call.builtInside_runAll calls q.new_freshSub.builtInside
      h.addOperand (hsub.throughout (.calls q.new_freshSub calls)) rfl
  | .whereColumns first operator second c, q, h => h.whereColumns first operator second c
  | .addJoin kind table calls, q, h => by
      have hnew := q.new_freshJoin table
      have hinner := JoinCall.builtInside_runAll calls hnew.builtInside
      exact { h.absorb (JoinCall.runAll calls (q.freshJoin table)) .join with
        joins := List.forall_mem_append.mpr ⟨h.joins, List.forall_mem_singleton.mpr
          (hinner.throughout (.join hnew calls))⟩ }
  | .groupBy columns, q, h => h.groupBy (Selection.builtInside_columns columns)
  | .groupByRaw sql, q, h => h.groupBy (by simp [Column.BuiltInside, Column.query?])
  | .addArm recipe all, q, h => h.addArm recipe.builtThroughout_build all
  | .addArmSub all calls, q, h =>
      have harm := Call.builtInside_runAll calls q.new_freshSub.builtInside
      h.addArm (harm.throughout (.calls q.new_freshSub calls)) all
  | .insertRow pairs, q, h => h.insertRow pairs
  | .insertReturning pairs _, q, h => { h.insertRow pairs with }
  | .toAggregate function columns, q, h => h.toAggregate function columns
  | .toFresh, q, _ => q.new_fresh.builtInside
  | .insertColumns _, _, h | .insertValues _, _, h | .setAssignments _, _, h
  | .makeDelete, _, h => { h with }
  -- other clauses
  | .onTable _, _, h | .onRaw _, _, h | .makeDistinct, _, h | .onWriter, _, h | .setLock _, _, h
  | .having _ _ _ _, _, h | .havingRaw _ _ _, _, h | .havingBetween _ _ _, _, h
  | .orderBy _ _, _, h | .orderByText _ _, _, h | .orderByRaw _ _, _, h | .orderRandomly _, _, h
  | .setLimit _, _, h | .setOffset _, _, h | .forPage _ _, _, h =>
      Call.builtInside_of_family h rfl rfl

/-- **A run.** -/
theorem Call.builtInside_runAll : ∀ (calls : List Call) {q : Query}, q.BuiltInside →
    (Call.runAll calls q).BuiltInside
  | [], _, h => h
  | call :: calls, _, h => Call.builtInside_runAll calls (call.builtInside_run h)

/-- The calls inside of a group of a join act on a new query, so the group is built of them. -/
theorem JoinCall.builtInside_run : ∀ (call : JoinCall) {q : Query}, q.BuiltInside →
    (call.run q).BuiltInside
  | .on first operator second c, _, h => h.whereColumns first operator second c
  | .group calls, q, h =>
      have hinner := JoinCall.builtInside_runAll calls q.new_fresh.builtInside
      h.addGroup (hinner.throughout (.join q.new_fresh calls)) .and
  | .whereEq column operand c, _, h => h.addComparison column "=" operand c
  | .whereCompare column operator operand c, _, h => h.whereCompare column operator operand c
  | .whereGroup calls c, q, h =>
      have hinner := Call.builtInside_runAll calls q.new_fresh.builtInside
      h.addGroup (hinner.throughout (.calls q.new_fresh calls)) c
  | .whereAll pairs c, _, h => h.whereAll pairs c
  | .whereNull _ _, _, h => h.addPlain rfl
  | .whereIn _ _, _, h => (h.bindAll .filter _).addPlain rfl
  | .whereRaw _ values, _, h => (h.bindAll .filter values).addPlain rfl

theorem JoinCall.builtInside_runAll : ∀ (calls : List JoinCall) {q : Query}, q.BuiltInside →
    (JoinCall.runAll calls q).BuiltInside
  | [], _, h => h
  | call :: calls, _, h => JoinCall.builtInside_runAll calls (call.builtInside_run h)

/-- A subquery that is given as a column is the query of a recipe. -/
theorem Selection.builtInside_columns : ∀ columns : List Selection,
    ∀ c ∈ Selection.columns columns, c.BuiltInside
  | [] => by simp [Selection.columns]
  | .name _ :: columns | .raw _ :: columns => by
      refine List.forall_mem_cons.mpr ⟨?_, Selection.builtInside_columns columns⟩
      simp [Selection.column, Column.BuiltInside, Column.query?]
  | .sub recipe _ :: columns => by
      refine List.forall_mem_cons.mpr ⟨?_, Selection.builtInside_columns columns⟩
      simpa [Selection.column, Column.BuiltInside, Column.query?] using
        recipe.builtThroughout_build

/-- **A program.** -/
theorem Recipe.builtThroughout_build : ∀ r : Recipe, r.build.BuiltThroughout
  | ⟨style, calls⟩ =>
      have hnew := (Query.empty style).new_fresh
      (Call.builtInside_runAll calls hnew.builtInside).throughout (.calls hnew calls)

end

/-! ## What holds of every part -/

/-- **Every part of a program's query is built.** -/
theorem Recipe.built_of_within (r : Recipe) {part : Query} (h : part.Within r.build) : part.Built :=
  r.builtThroughout_build part h

/-- A new query has neither arms nor anything that belongs behind them. -/
lemma Query.New.redirects {q : Query} (h : q.New) : q.Redirects :=
  h ▸ q.redirects_fresh

/-- Calls make orderings and pages of a union only where there is one. -/
theorem Query.Built.redirects {q : Query} (h : q.Built) : q.Redirects := by
  cases h with
  | calls hb calls => exact (Call.arranged_runAll calls hb.redirects).1
  | @join b hb calls =>
      have hsame : (JoinCall.runAll calls b).arrangement = b.arrangement :=
        (JoinCall.steps_runAll calls b).arrangement_eq rfl
      exact (hb.redirects.untouched hsame).1

end SqlWeave
