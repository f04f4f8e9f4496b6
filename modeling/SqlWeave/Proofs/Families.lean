import Mathlib.Logic.Relation
import Mathlib.Tactic.Common
import SqlWeave.Query.Call

/-!
# Families of calls

Every clause of a select has its own calls.  What such a call may do is said here once, as a chain
of small steps; that a call leaves something alone is then a matter of the steps of its family.

* `Family`, `Call.family?` — the clause that a call belongs to.
* `Family.Step`, `Family.Steps` — what the calls of a family may do to a query.
* `Family.Steps.invariant`, `Family.Steps.unchanged` — what each step keeps, the calls keep.
* `Call.steps_run` — they do nothing else.
* `Call.origin_run` — no call changes the style of a query and the mark of a join.
-/

namespace SqlWeave

/-! ## Families -/

/-- The clauses of a select. -/
inductive Family where
  | columns
  | distinct
  | table
  | joins
  | predicates
  | groups
  | havings
  | orders
  | paging
  | lock
  | unions
  | writer
  deriving DecidableEq, Repr

mutual

/-- The clause that a call is about, if it is about one.  A call under a condition is about that of
the calls under it. -/
def Call.family? : Call → Option Family
  | .select _ | .addColumns _ | .addRaw _ _ | .addSub _ _ => some .columns
  | .makeDistinct => some .distinct
  | .onTable _ | .onRaw _ => some .table
  | .addJoin _ _ _ => some .joins
  | .whereEq _ _ _ | .whereCompare _ _ _ _ | .whereGroup _ _ | .whereAll _ _ | .addGroup _ _
  | .whereRaw _ _ _ | .whereIn _ _ _ _ | .whereInSub _ _ _ _ | .whereNull _ _ _
  | .whereBetween _ _ _ _ _ | .whereSub _ _ _ _ | .whereExists _ _ _ | .whereColumns _ _ _ _ =>
    some .predicates
  | .groupBy _ | .groupByRaw _ => some .groups
  | .having _ _ _ _ | .havingRaw _ _ _ | .havingBetween _ _ _ => some .havings
  | .orderBy _ _ | .orderByText _ _ | .orderByRaw _ _ | .orderRandomly _ => some .orders
  | .setLimit _ | .setOffset _ | .forPage _ _ => some .paging
  | .setLock _ => some .lock
  | .addArm _ _ | .addArmSub _ _ => some .unions
  | .onWriter => some .writer
  | .onlyIf _ calls => Call.commonFamily? calls
  | .insertRow _ | .insertColumns _ | .insertValues _ | .insertReturning _ _ | .setAssignments _
  | .makeDelete | .toAggregate _ _ | .toFresh => none

/-- The clause that all of several calls are about. -/
def Call.commonFamily? : List Call → Option Family
  | [] => none
  | [call] => call.family?
  | call :: calls => if call.family? = Call.commonFamily? calls then call.family? else none

end

/-- What is said of several calls is said of each. -/
lemma Call.family?_of_mem {f : Family} : ∀ {calls : List Call},
    Call.commonFamily? calls = some f → ∀ call ∈ calls, call.family? = some f
  | [call], h => List.forall_mem_singleton.mpr h
  | call :: next :: calls, h => by
      rw [Call.commonFamily?] at h
      · split_ifs at h with hsame
        rw [hsame] at h
        exact List.forall_mem_cons.mpr ⟨hsame.trans h, Call.family?_of_mem h⟩
      · simp

/-! ## Steps -/

/-- Appends the values of an ordering to those of the query, or of the union if there is one. -/
def Query.bindOrder (q : Query) (values : List Value) : Query :=
  { q with bindings := if q.hasUnion then q.bindings.extendUnionOrder values
    else q.bindings.extend .order values }

/-- A step of a call of a family.  Without a union an ordering or a page is that of the query, with
one it is that of the union. -/
inductive Family.Step : Family → Query → Query → Prop
  | fail (f : Family) (q : Query) (e : Option QueryError) : Step f q (q.failWith e)
  | select (q : Query) (columns : List Column) : Step .columns q (q.select columns)
  | addColumns (q : Query) (columns : List Column) : Step .columns q (q.addColumns columns)
  | bindSelect (q : Query) (values : List Value) : Step .columns q (q.bindAll .select values)
  | makeDistinct (q : Query) : Step .distinct q q.makeDistinct
  | setTable (q : Query) (t : Table) : Step .table q { q with table := some t }
  | addJoin (q : Query) (j : Join) : Step .joins q { q with joins := q.joins ++ [j] }
  | bindJoin (q : Query) (values : List Value) : Step .joins q (q.bindAll .join values)
  | addPredicate (q : Query) (p : Predicate) : Step .predicates q (q.addPredicate p)
  | bindFilter (q : Query) (values : List Value) : Step .predicates q (q.bindAll .filter values)
  | groupBy (q : Query) (columns : List Column) : Step .groups q (q.groupBy columns)
  | addHaving (q : Query) (h : Having) : Step .havings q (q.addHaving h)
  | bindHaving (q : Query) (values : List Value) : Step .havings q (q.bindAll .having values)
  | addOrder (q : Query) (o : Order) (h : q.hasUnion = false) :
    Step .orders q { q with orders := q.orders ++ [o] }
  | addUnionOrder (q : Query) (o : Order) (h : q.hasUnion = true) :
    Step .orders q { q with unionOrders := q.unionOrders ++ [o] }
  | bindOrder (q : Query) (values : List Value) (h : q.hasUnion = false) :
    Step .orders q (q.bindAll .order values)
  | bindUnionOrder (q : Query) (values : List Value) (h : q.hasUnion = true) :
    Step .orders q { q with bindings := q.bindings.extendUnionOrder values }
  | setPage (q : Query) (p : Page) (h : q.hasUnion = false) : Step .paging q { q with page := p }
  | setUnionPage (q : Query) (p : Page) (h : q.hasUnion = true) :
    Step .paging q { q with unionPage := p }
  | setLock (q : Query) (l : Lock) : Step .lock q (q.setLock l)
  | addArm (q arm : Query) (all : Bool) : Step .unions q (q.addArm arm all)
  | onWriter (q : Query) : Step .writer q q.onWriter

/-- Several steps of calls of a family. -/
def Family.Steps (f : Family) : Query → Query → Prop :=
  Relation.ReflTransGen f.Step

namespace Family.Steps

variable {f : Family} {q q' : Query}

/-- No step at all is a run of every family. -/
lemma refl (f : Family) (q : Query) : f.Steps q q :=
  Relation.ReflTransGen.refl

/-- A refusal may come with the calls of any family. -/
lemma fail (h : f.Steps q q') (e : Option QueryError) : f.Steps q (q'.failWith e) :=
  h.tail (.fail f q' e)

/-- What every step of a family keeps true, its calls keep true. -/
lemma invariant {P : Query → Prop} (h : f.Steps q q')
    (hstep : ∀ {q q' : Query}, f.Step q q' → P q → P q') (hq : P q) : P q' := by
  induction h with
  | refl => exact hq
  | tail _ hnext ih => exact hstep hnext ih

/-- A part of the query that no step of a family changes is not changed by its calls. -/
lemma unchanged {α : Type} {g : Query → α} (h : f.Steps q q')
    (hstep : ∀ {q q' : Query}, f.Step q q' → g q' = g q) : g q' = g q :=
  h.invariant (P := fun x => g x = g q) (fun hnext heq => (hstep hnext).trans heq) rfl

/-! ### Predicates -/

lemma addPredicate (h : Family.predicates.Steps q q') (p : Predicate) :
    Family.predicates.Steps q (q'.addPredicate p) :=
  h.tail (.addPredicate q' p)

/-- Values for predicates to come. -/
lemma bindFilter (h : Family.predicates.Steps q q') (values : List Value) :
    Family.predicates.Steps q (q'.bindAll .filter values) :=
  h.tail (.bindFilter q' values)

/-- A comparison is a test for null, a refusal, or a predicate with its value. -/
lemma addComparison (q : Query) (column operator : String) (operand : Param) (c : Conjunction) :
    Family.predicates.Steps q (q.addComparison column operator operand c) := by
  simp only [Query.addComparison]
  split_ifs
  · exact (refl _ q).addPredicate _
  · exact (refl _ q).addPredicate _
  · exact (refl _ q).fail _
  · exact ((refl _ q).bindFilter _).addPredicate _

/-- An unknown operator is refused, and nothing is added. -/
lemma whereCompare (q : Query) (column operator : String) (operand : Param) (c : Conjunction) :
    Family.predicates.Steps q (q.whereCompare column operator operand c) := by
  rw [Query.whereCompare]
  split_ifs <;> exact addComparison q ..

/-- A group without predicates leaves its refusal only; else it brings its values and one
predicate. -/
lemma addGroup (q inner : Query) (c : Conjunction) :
    Family.predicates.Steps q (q.addGroup inner c) := by
  simp only [Query.addGroup]
  split_ifs
  · exact (refl _ q).fail _
  · exact (((refl _ q).fail _).bindFilter _).addPredicate _

/-- A subquery brings its refusal and its values. -/
lemma addSubquery (q sub : Query) (p : Predicate) :
    Family.predicates.Steps q ((q.absorb sub .filter).addPredicate p) :=
  (((refl _ q).fail sub.error).bindFilter _).addPredicate p

/-- An unknown operator is refused before the subquery is built. -/
lemma whereSub (q : Query) (column operator : String) (build : Query → Query) (c : Conjunction) :
    Family.predicates.Steps q (q.whereSub column operator build c) := by
  rw [Query.whereSub]
  split_ifs
  · exact addSubquery q ..
  · exact (refl _ q).fail _

/-- Two columns bring no value. -/
lemma whereColumns (q : Query) (first operator second : String) (c : Conjunction) :
    Family.predicates.Steps q (q.whereColumns first operator second c) := by
  rw [Query.whereColumns]
  split_ifs
  · exact (refl _ q).addPredicate _
  · exact (refl _ q).fail _

/-! ### Other clauses -/

/-- A comparison on groups, with its value in front. -/
lemma having (q : Query) (column operator : String) (operand : Param) (c : Conjunction) :
    Family.havings.Steps q (q.having column operator operand c) := by
  rw [Query.having]
  split_ifs <;> exact ((refl _ q).tail (.bindHaving q _)).tail (.addHaving _ _)

/-- Where there is a union a term is one of its ordering. -/
lemma addOrder (q : Query) (o : Order) : Family.orders.Steps q (q.addOrder o) := by
  rw [Query.addOrder]
  split_ifs with hunion
  · exact .single (.addUnionOrder q o hunion)
  · exact .single (.addOrder q o (Bool.not_eq_true _ ▸ hunion))

/-- A direction that cannot be read is a refusal. -/
lemma orderByText (q : Query) (column direction : String) :
    Family.orders.Steps q (q.orderByText column direction) := by
  unfold Query.orderByText
  split
  · exact addOrder q _
  · exact (refl _ q).fail _

/-- The values of a term go to the same place as the term. -/
lemma bindOrder (q : Query) (values : List Value) :
    Family.orders.Steps q (q.bindOrder values) := by
  rw [Query.bindOrder]
  split_ifs with hunion
  · exact .single (.bindUnionOrder q values hunion)
  · exact .single (.bindOrder q values (Bool.not_eq_true _ ▸ hunion))

/-- Where there is a union a limit is one of its page. -/
lemma setLimit (q : Query) (n : UInt64) : Family.paging.Steps q (q.setLimit n) := by
  rw [Query.setLimit]
  split_ifs with hunion
  · exact .single (.setUnionPage q _ hunion)
  · exact .single (.setPage q _ (Bool.not_eq_true _ ▸ hunion))

lemma setOffset (q : Query) (n : UInt64) : Family.paging.Steps q (q.setOffset n) := by
  rw [Query.setOffset]
  split_ifs with hunion
  · exact .single (.setUnionPage q _ hunion)
  · exact .single (.setPage q _ (Bool.not_eq_true _ ▸ hunion))

end Family.Steps

/-! ## A call takes the steps of its family -/

mutual

/-- **One call.** -/
theorem Call.steps_run {f : Family} : ∀ (call : Call) (q : Query), call.family? = some f →
    f.Steps q (call.run q)
  | .onlyIf condition calls, q, h => by
      rw [Call.run]
      split_ifs
      · exact Call.steps_runAll calls q (Call.family?_of_mem h)
      · exact .refl f q
  | .select columns, q, rfl => .single (.select q _)
  | .addColumns columns, q, rfl => .single (.addColumns q _)
  | .addRaw sql values, q, rfl => .tail (.single (.addColumns q _)) (.bindSelect _ _)
  | .addSub label calls, q, rfl =>
      .tail (.tail (.single (.fail _ q _)) (.bindSelect _ _)) (.addColumns _ _)
  | .makeDistinct, q, rfl => .single (.makeDistinct q)
  | .onTable name, q, rfl | .onRaw sql, q, rfl => .single (.setTable q _)
  | .addJoin kind table calls, q, rfl =>
      .tail (.tail (.single (.fail _ q _)) (.bindJoin _ _)) (.addJoin _ _)
  | .whereEq _ _ _, q, rfl => .addComparison q ..
  | .whereCompare _ _ _ _, q, rfl => .whereCompare q ..
  | .whereGroup _ _, q, rfl | .whereAll _ _, q, rfl | .addGroup _ _, q, rfl => .addGroup q ..
  | .whereRaw sql values c, q, rfl => .tail (.single (.bindFilter q values)) (.addPredicate _ _)
  | .whereIn column operands negated c, q, rfl =>
      .tail (.single (.bindFilter q _)) (.addPredicate _ _)
  | .whereInSub _ _ _ _, q, rfl | .whereExists _ _ _, q, rfl => .addSubquery q ..
  | .whereNull column negated c, q, rfl => .single (.addPredicate q _)
  | .whereBetween column low high negated c, q, rfl =>
      .tail (.tail (.single (.bindFilter q _)) (.bindFilter _ _)) (.addPredicate _ _)
  | .whereSub _ _ _ _, q, rfl => .whereSub q ..
  | .whereColumns _ _ _ _, q, rfl => .whereColumns q ..
  | .groupBy columns, q, rfl | .groupByRaw sql, q, rfl => .single (.groupBy q _)
  | .having _ _ _ _, q, rfl => .having q ..
  | .havingRaw sql values c, q, rfl => .tail (.single (.bindHaving q values)) (.addHaving _ _)
  | .havingBetween column low high, q, rfl =>
      .tail (.tail (.single (.bindHaving q _)) (.bindHaving _ _)) (.addHaving _ _)
  | .orderBy _ _, q, rfl | .orderRandomly _, q, rfl => .addOrder q _
  | .orderByText column direction, q, rfl => .orderByText q column direction
  | .orderByRaw sql values, q, rfl =>
      (Family.Steps.bindOrder q values).trans (Family.Steps.addOrder _ (.raw sql))
  | .setLimit n, q, rfl => .setLimit q n
  | .setOffset n, q, rfl => .setOffset q n
  | .forPage page perPage, q, rfl =>
      (Family.Steps.setOffset q _).trans (Family.Steps.setLimit _ perPage)
  | .setLock l, q, rfl => .single (.setLock q l)
  | .addArm _ _, q, rfl | .addArmSub _ _, q, rfl => .single (.addArm q _ _)
  | .onWriter, q, rfl => .single (.onWriter q)

/-- **Several calls of one family.** -/
theorem Call.steps_runAll {f : Family} : ∀ (calls : List Call) (q : Query),
    (∀ call ∈ calls, call.family? = some f) → f.Steps q (Call.runAll calls q)
  | [], q, _ => .refl f q
  | call :: calls, q, h =>
      (call.steps_run q (h call List.mem_cons_self)).trans
        (Call.steps_runAll calls (call.run q) fun next hnext =>
          h next (List.mem_cons_of_mem call hnext))

end

/-- No clause of a select is a function over the rows: only a call without a family asks for one. -/
lemma Family.Step.aggregate_eq {f : Family} {q q' : Query} (h : f.Step q q') :
    q'.aggregate = q.aggregate := by
  cases h <;> rfl

lemma Family.Steps.aggregate_eq {f : Family} {q q' : Query} (h : f.Steps q q') :
    q'.aggregate = q.aggregate :=
  h.unchanged Family.Step.aggregate_eq

/-- The calls of a join are all about its predicates. -/
theorem JoinCall.steps_run (call : JoinCall) (q : Query) :
    Family.predicates.Steps q (call.run q) := by
  cases call with
  | on _ _ _ _ => exact .whereColumns q ..
  | group _ => exact .addGroup q ..
  | whereEq _ _ _ => exact .addComparison q ..
  | whereCompare _ _ _ _ => exact .whereCompare q ..
  | whereGroup _ _ => exact .addGroup q ..
  | whereAll _ _ => exact .addGroup q ..
  | whereNull column negated => exact .single (.addPredicate q _)
  | whereIn column operands => exact .tail (.single (.bindFilter q _)) (.addPredicate _ _)
  | whereRaw sql values => exact .tail (.single (.bindFilter q values)) (.addPredicate _ _)

theorem JoinCall.steps_runAll (calls : List JoinCall) (q : Query) :
    Family.predicates.Steps q (JoinCall.runAll calls q) := by
  induction calls generalizing q with
  | nil => exact .refl _ q
  | cons call calls ih => exact (call.steps_run q).trans (ih (call.run q))

/-! ## What a query is begun with

No call changes the style and the mark of a join, so they are those of the query at the start. -/

/-- The style of a query and whether it is a join. -/
def Query.origin (q : Query) : Style × Bool :=
  (q.style, q.isJoin)

/-- No step sets the style or makes a join of a query. -/
lemma Family.Step.origin_eq {f : Family} {q q' : Query} (h : f.Step q q') :
    q'.origin = q.origin := by
  cases h <;> rfl

/-- A run of steps ends in the style that it was begun in. -/
lemma Family.Steps.origin_eq {f : Family} {q q' : Query} (h : f.Steps q q') :
    q'.origin = q.origin :=
  h.unchanged Family.Step.origin_eq

lemma Query.origin_insertRow (q : Query) (pairs : List (String × Param)) :
    (q.insertRow pairs).origin = q.origin := by
  simp only [insertRow]
  split_ifs
  · rfl
  · split <;> rfl

/-- A function over the rows takes the place of the columns and no more. -/
lemma Query.origin_toAggregate (q : Query) (function : String) (columns : List String) :
    (q.toAggregate function columns).origin = q.origin := by
  simp only [toAggregate]
  split_ifs <;> rfl

mutual

/-- **One call.**  Most calls take the steps of their family; those without a family are looked at
one by one. -/
lemma Call.origin_run : ∀ (call : Call) (q : Query), (call.run q).origin = q.origin
  | .onlyIf true calls, q => Call.origin_runAll calls q
  | .insertRow pairs, q | .insertReturning pairs _, q => q.origin_insertRow pairs
  | .toAggregate function columns, q => q.origin_toAggregate function columns
  | .onlyIf false _, _ | .insertColumns _, _ | .insertValues _, _ | .setAssignments _, _
  | .makeDelete, _ | .toFresh, _ => rfl
  | .onTable _, q | .onRaw _, q | .select _, q | .addColumns _, q | .addRaw _ _, q
  | .addSub _ _, q | .makeDistinct, q | .onWriter, q | .whereEq _ _ _, q
  | .whereCompare _ _ _ _, q | .whereGroup _ _, q | .whereAll _ _, q | .addGroup _ _, q
  | .whereRaw _ _ _, q | .whereIn _ _ _ _, q | .whereInSub _ _ _ _, q | .whereNull _ _ _, q
  | .whereBetween _ _ _ _ _, q | .whereSub _ _ _ _, q | .whereExists _ _ _, q
  | .whereColumns _ _ _ _, q | .addJoin _ _ _, q | .groupBy _, q | .groupByRaw _, q
  | .having _ _ _ _, q | .havingRaw _ _ _, q | .havingBetween _ _ _, q | .orderBy _ _, q
  | .orderByText _ _, q | .orderByRaw _ _, q | .orderRandomly _, q | .setLimit _, q
  | .setOffset _, q | .forPage _ _, q | .setLock _, q | .addArm _ _, q | .addArmSub _ _, q =>
      (Call.steps_run _ q rfl).origin_eq

lemma Call.origin_runAll : ∀ (calls : List Call) (q : Query),
    (Call.runAll calls q).origin = q.origin
  | [], _ => rfl
  | call :: calls, q => (Call.origin_runAll calls (call.run q)).trans (call.origin_run q)

end

/-- A group is put together on a copy of a query and is a join if that is one. -/
lemma Call.isJoin_runAll (calls : List Call) (q : Query) :
    (Call.runAll calls q).isJoin = q.isJoin :=
  congrArg Prod.snd (Call.origin_runAll calls q)

/-- The calls of a join all belong to one family. -/
lemma JoinCall.isJoin_runAll (calls : List JoinCall) (q : Query) :
    (JoinCall.runAll calls q).isJoin = q.isJoin :=
  congrArg Prod.snd (JoinCall.steps_runAll calls q).origin_eq

/-- The query of a recipe is of its style, and it is no join. -/
lemma Recipe.origin_build : ∀ r : Recipe, r.build.origin = (r.style, false)
  | ⟨style, calls⟩ => Call.origin_runAll calls (Query.empty style)

lemma Recipe.style_build (r : Recipe) : r.build.style = r.style :=
  congrArg Prod.fst r.origin_build

lemma Recipe.isJoin_build (r : Recipe) : r.build.isJoin = false :=
  congrArg Prod.snd r.origin_build

end SqlWeave
