import SqlWeave.Proofs.Families

/-!
# Every part of a query is well-formed

Callers give operators as texts and operands as values, and what they give may be an operator that
no dialect knows, a null, or a group without predicates.  None of this reaches the predicates of a
query: what is stored there is written without another look at it, in the query itself and in every
query inside of it.

* `Query.embedded`, `Query.Within` — the queries inside of a query, at any depth.
* `Query.WellFormed` — **the specification**: what holds of the clauses of one query.
* `Query.Tended` — the invariant: the clauses of a query are well-formed, and so is everything that
  they hold.
* `Call.tended_run` — one call keeps the invariant.
* `every_part_is_well_formed` — the statement for callers.
-/

namespace SqlWeave

/-! ## Queries inside of queries -/

/-- The query that a predicate holds. -/
def Predicate.query? : Predicate → Option Query
  | .isInSub _ query _ _ | .nested query _ | .compareSub _ _ query _ | .exists query _ _ =>
    some query
  | _ => none

/-- The query that a column holds. -/
def Column.query? : Column → Option Query
  | .sub query _ => some query
  | _ => none

namespace Query

/-- The queries that the clauses of a query hold. -/
def embedded (q : Query) : List Query :=
  (q.columns.getD []).filterMap Column.query? ++ q.joins.map (·.query)
    ++ q.predicates.filterMap Predicate.query? ++ q.groups.filterMap Column.query?
    ++ q.arms.map (·.query)

/-- Whether a query is another one or stands inside of it, at any depth. -/
def Within (part whole : Query) : Prop :=
  Relation.ReflTransGen (fun outer inner => inner ∈ outer.embedded) whole part

end Query

/-! ## The specification -/

/-- An operator as a dialect lists it. -/
structure Style.Lists (s : Style) (operator : String) : Prop where
  lower : Text.lower operator = operator
  knows : s.knows operator = true

/-- **A predicate of a query of style `s`.**  Operators are listed ones.  A comparison has no null,
and with a place inside of a document no truth value that is bound.  A group has predicates.  A
subquery is not marked as a join. -/
def Predicate.WellFormed (s : Style) : Predicate → Prop
  | .compare column operator operand _ =>
    s.Lists operator ∧ operand.isNull = false ∧
      (Text.hasArrow column = true → ∀ b, operand ≠ .value (.bool b))
  | .compareSub _ operator query _ => s.Lists operator ∧ query.isJoin = false
  | .columns _ operator _ _ => s.Lists operator
  | .nested query _ => query.predicates ≠ []
  | .isInSub _ query _ _ | .exists query _ _ => query.isJoin = false
  | .raw _ _ | .isIn _ _ _ _ | .isNull _ _ _ | .between _ _ _ _ _ => True

/-- A predicate on groups. -/
def Having.WellFormed (s : Style) : Having → Prop
  | .compare _ operator _ _ => s.Lists operator
  | .raw _ _ | .between _ _ _ _ => True

/-- A column, which is not marked as a join if it is a subquery. -/
def Column.WellFormed (c : Column) : Prop :=
  ∀ query ∈ c.query?, query.isJoin = false

namespace Query

/-- **One query**, without a look at the queries inside of it. -/
structure WellFormed (q : Query) : Prop where
  predicates : ∀ p ∈ q.predicates, p.WellFormed q.style
  havings : ∀ h ∈ q.havings, h.WellFormed q.style
  joins : ∀ j ∈ q.joins, j.query.isJoin = true
  columns : ∀ c ∈ q.columns.getD [], c.WellFormed
  groups : ∀ c ∈ q.groups, c.WellFormed
  arms : ∀ a ∈ q.arms, a.query.isJoin = false

/-- Whether a query and every query inside of it is well-formed. -/
def Throughout (q : Query) : Prop :=
  ∀ part : Query, part.Within q → part.WellFormed

/-- The invariant, clause by clause. -/
structure Tended (q : Query) : Prop where
  predicates : ∀ p ∈ q.predicates, p.WellFormed q.style ∧ ∀ part ∈ p.query?, part.Throughout
  havings : ∀ h ∈ q.havings, h.WellFormed q.style
  joins : ∀ j ∈ q.joins, j.query.isJoin = true ∧ j.query.Throughout
  columns : ∀ c ∈ q.columns.getD [], c.WellFormed ∧ ∀ part ∈ c.query?, part.Throughout
  groups : ∀ c ∈ q.groups, c.WellFormed ∧ ∀ part ∈ c.query?, part.Throughout
  arms : ∀ a ∈ q.arms, a.query.isJoin = false ∧ a.query.Throughout

/-- Every query that a clause holds is one of those in the invariant. -/
lemma Tended.throughout_embedded {q part : Query} (h : q.Tended) (hpart : part ∈ q.embedded) :
    part.Throughout := by
  simp only [embedded, List.mem_append, List.mem_filterMap, List.mem_map] at hpart
  rcases hpart with (((⟨c, hc, hq⟩ | ⟨j, hj, rfl⟩) | ⟨p, hp, hq⟩) | ⟨c, hc, hq⟩) | ⟨a, ha, rfl⟩
  · exact (h.columns c hc).2 part hq
  · exact (h.joins j hj).2
  · exact (h.predicates p hp).2 part hq
  · exact (h.groups c hc).2 part hq
  · exact (h.arms a ha).2

/-- **The invariant is enough**: every query at any depth stands inside of one that a clause
holds. -/
lemma Tended.throughout {q : Query} (h : q.Tended) : q.Throughout := by
  intro part hpart
  rcases Relation.ReflTransGen.cases_head hpart with rfl | ⟨next, hnext, hrest⟩
  · exact {
      predicates := fun p hp => (h.predicates p hp).1
      havings := h.havings
      joins := fun j hj => (h.joins j hj).1
      columns := fun c hc => (h.columns c hc).1
      groups := fun c hc => (h.groups c hc).1
      arms := fun a ha => (h.arms a ha).1 }
  · exact h.throughout_embedded hnext part hrest

end Query

/-! ## Operators -/

/-- A lowered letter stays as it is. -/
lemma Chars.toLower_toLower (c : Char) : c.toLower.toLower = c.toLower := by
  by_cases hupper : c.val ≥ 'A'.val ∧ c.val ≤ 'Z'.val
  · have hval : c.toLower.val = c.val + ('a'.val - 'A'.val) := congrArg Char.val (dif_pos hupper)
    refine dif_neg fun h => ?_
    rw [hval] at h
    simp [UInt32.le_iff_toNat_le] at hupper h
    omega
  · have hsame : c.toLower = c := dif_neg hupper
    rw [hsame, hsame]

lemma Text.lower_lower (s : String) : Text.lower (Text.lower s) = Text.lower s := by
  rw [lower, lower, String.toList_ofList, List.map_map]
  exact congrArg String.ofList (List.map_congr_left fun c _ => Chars.toLower_toLower c)

namespace Style

/-- An operator that the dialect knows is listed once it is lowered. -/
lemma lists_lower {s : Style} {operator : String} (h : s.knows operator = true) :
    s.Lists (Text.lower operator) := by
  refine ⟨Text.lower_lower operator, ?_⟩
  rw [knows, Dialect.knows] at h ⊢
  rwa [Text.lower_lower]

/-- The one operator that calls may leave out. -/
lemma lists_equal (s : Style) : s.Lists "=" := by
  refine ⟨by decide, ?_⟩
  rw [knows, Dialect.knows, Bool.or_eq_true]
  exact Or.inl (by decide)

end Style

/-! ## What the operations add -/

namespace Query

variable {q : Query}

/-- A query without clauses. -/
lemma tended_fresh (q : Query) : q.fresh.Tended where
  predicates := by simp [fresh, empty]
  havings := by simp [fresh, empty]
  joins := by simp [fresh, empty]
  columns := by simp [fresh, empty]
  groups := by simp [fresh, empty]
  arms := by simp [fresh, empty]

/-- A query in the place of an operand starts without clauses. -/
lemma tended_freshSub (q : Query) : q.freshSub.Tended :=
  { q.tended_fresh with }

lemma tended_freshJoin (q : Query) (table : String) : (q.freshJoin table).Tended :=
  { q.tended_fresh with }

namespace Tended

lemma withBindings (h : q.Tended) (b : Bindings) : ({ q with bindings := b } : Query).Tended :=
  { h with }

lemma bindAll (h : q.Tended) (c : Category) (values : List Value) : (q.bindAll c values).Tended :=
  h.withBindings _

lemma failWith (h : q.Tended) (e : Option QueryError) : (q.failWith e).Tended :=
  { h with }

/-- A part that is absorbed hands over its values and its note and adds no clause. -/
lemma absorb (h : q.Tended) (sub : Query) (c : Category) : (q.absorb sub c).Tended :=
  { h with }

/-- A predicate may be added if it is well-formed itself and the query that it holds is so
throughout; it is the shape of all the lemmas below for one clause. -/
lemma addPredicate (h : q.Tended) {p : Predicate} (hp : p.WellFormed q.style)
    (hpart : ∀ part ∈ p.query?, part.Throughout) : (q.addPredicate p).Tended :=
  { h with
    predicates := List.forall_mem_append.mpr
      ⟨h.predicates, List.forall_mem_singleton.mpr ⟨hp, hpart⟩⟩ }

lemma addHaving (h : q.Tended) {p : Having} (hp : p.WellFormed q.style) :
    (q.addHaving p).Tended :=
  { h with havings := List.forall_mem_append.mpr ⟨h.havings, List.forall_mem_singleton.mpr hp⟩ }

lemma addColumns (h : q.Tended) {columns : List Column}
    (hc : ∀ c ∈ columns, c.WellFormed ∧ ∀ part ∈ c.query?, part.Throughout) :
    (q.addColumns columns).Tended :=
  { h with columns := List.forall_mem_append.mpr ⟨h.columns, hc⟩ }

lemma groupBy (h : q.Tended) {columns : List Column}
    (hc : ∀ c ∈ columns, c.WellFormed ∧ ∀ part ∈ c.query?, part.Throughout) :
    (q.groupBy columns).Tended :=
  { h with groups := List.forall_mem_append.mpr ⟨h.groups, hc⟩ }

/-- The arms of a union may not come from a join, which would leave them without a statement. -/
lemma addArm (h : q.Tended) {arm : Query} (hjoin : arm.isJoin = false) (harm : arm.Throughout)
    (all : Bool) : (q.addArm arm all).Tended :=
  { h with
    arms := List.forall_mem_append.mpr ⟨h.arms, List.forall_mem_singleton.mpr ⟨hjoin, harm⟩⟩ }

end Tended

/-! ### Comparisons -/

/-- What a comparison makes of its operand is null only if the operand was. -/
lemma isNull_operandFor (column : String) (operand : Param) :
    (operandFor column operand).isNull = operand.isNull := by
  unfold operandFor
  split
  · split_ifs <;> rfl
  · rfl

/-- Inside of a document no truth value is bound. -/
lemma operandFor_ne_bool {column : String} (h : Text.hasArrow column = true) (operand : Param)
    (b : Bool) : operandFor column operand ≠ .value (.bool b) := by
  unfold operandFor
  split
  · rw [if_pos h]
    exact Param.noConfusion
  · next hother => exact fun heq => hother b heq

namespace Tended

/-- What is compared is neither null nor, inside of a document, a truth value. -/
lemma addComparison (h : q.Tended) {column operator : String} (hop : q.style.knows operator = true)
    (operand : Param) (c : Conjunction) : (q.addComparison column operator operand c).Tended := by
  simp only [Query.addComparison]
  split_ifs with hnull
  · exact h.addPredicate trivial (by simp [Predicate.query?])
  · exact h.addPredicate trivial (by simp [Predicate.query?])
  · exact h.failWith _
  · refine (h.bindAll .filter _).addPredicate ⟨Style.lists_lower hop, ?_, ?_⟩
      (by simp [Predicate.query?])
    · rw [isNull_operandFor]
      exact Bool.not_eq_true _ ▸ hnull
    · exact fun harrow => operandFor_ne_bool harrow operand

/-- Equality is always listed, so this needs nothing of the column or the operand. -/
lemma whereEq (h : q.Tended) (column : String) (operand : Param) (c : Conjunction) :
    (q.whereEq column operand c).Tended :=
  h.addComparison q.style.lists_equal.knows operand c

/-- Under an operator that is not listed the comparison is one for equality with the operator's text
as its operand. -/
lemma whereCompare (h : q.Tended) (column operator : String) (operand : Param) (c : Conjunction) :
    (q.whereCompare column operator operand c).Tended := by
  rw [Query.whereCompare]
  split_ifs with hknown
  · exact h.addComparison hknown operand c
  · exact h.whereEq column _ c

/-- Here too an operator that is not listed is read as an operand. -/
lemma having (h : q.Tended) (column operator : String) (operand : Param) (c : Conjunction) :
    (q.having column operator operand c).Tended := by
  rw [Query.having]
  split_ifs with hknown
  · exact (h.bindAll .having _).addHaving (Style.lists_lower hknown)
  · exact (h.bindAll .having _).addHaving q.style.lists_equal

/-- Between columns there is no such reading: what is not listed is refused and adds nothing. -/
lemma whereColumns (h : q.Tended) (first operator second : String) (c : Conjunction) :
    (q.whereColumns first operator second c).Tended := by
  rw [Query.whereColumns]
  split_ifs with hknown
  · exact h.addPredicate (Style.lists_lower hknown) (by simp [Predicate.query?])
  · exact h.failWith _

/-! ### Groups and subqueries -/

/-- A group without predicates is dropped. -/
lemma addGroup (h : q.Tended) {inner : Query} (hinner : inner.Tended) (c : Conjunction) :
    (q.addGroup inner c).Tended := by
  simp only [Query.addGroup]
  split_ifs with hempty
  · exact h.failWith _
  · refine ((h.failWith _).bindAll .filter _).addPredicate ?_ ?_
    · simpa [Predicate.WellFormed] using hempty
    · simpa [Predicate.query?] using hinner.throughout

lemma whereAll (h : q.Tended) (pairs : List (String × Param)) (c : Conjunction) :
    (q.whereAll pairs c).Tended := by
  refine h.addGroup ?_ c
  have hfold : ∀ inner : Query, inner.Tended →
      (pairs.foldl (fun q pair => q.whereEq pair.1 pair.2 c) inner).Tended := by
    induction pairs with
    | nil => exact fun _ hinner => hinner
    | cons pair pairs ih => exact fun _ hinner => ih _ (hinner.whereEq pair.1 pair.2 c)
  exact hfold _ q.tended_fresh

/-! ### Order and pages -/

/-- To the query or to its union: orders hold no parts. -/
lemma addOrder (h : q.Tended) (o : Order) : (q.addOrder o).Tended := by
  rw [Query.addOrder]
  split_ifs <;> exact { h with }

lemma setLimit (h : q.Tended) (n : UInt64) : (q.setLimit n).Tended := by
  rw [Query.setLimit]
  split_ifs <;> exact { h with }

lemma setOffset (h : q.Tended) (n : UInt64) : (q.setOffset n).Tended := by
  rw [Query.setOffset]
  split_ifs <;> exact { h with }

/-- A direction that is neither of the two words adds nothing. -/
lemma orderByText (h : q.Tended) (column direction : String) :
    (q.orderByText column direction).Tended := by
  unfold Query.orderByText
  split
  · exact h.addOrder _
  · exact h.failWith _

/-- The columns are replaced by names, which hold no parts. -/
lemma toAggregate (h : q.Tended) (function : String) (columns : List String) :
    (q.toAggregate function columns).Tended := by
  simp only [Query.toAggregate]
  split_ifs <;> exact { h with columns := by simp }

lemma insertRow (h : q.Tended) (pairs : List (String × Param)) : (q.insertRow pairs).Tended := by
  simp only [Query.insertRow]
  split_ifs
  · exact { h with }
  · split <;> exact { h with }

end Tended

end Query

/-! ## A run keeps the invariant -/

mutual

/-- **One call.** -/
theorem Call.tended_run : ∀ (call : Call) {q : Query}, q.Tended → (call.run q).Tended
  | .select columns, q, h => { h with columns := Selection.tended_columns columns }
  | .addColumns columns, q, h => h.addColumns (Selection.tended_columns columns)
  | .addRaw sql values, q, h => by
      have hcolumns : (q.addColumns [.raw sql]).Tended :=
        h.addColumns (by simp [Column.WellFormed, Column.query?])
      exact hcolumns.bindAll .select values
  | .addSub label calls, q, h => by
      have hsub := (Call.tended_runAll calls q.tended_freshSub).throughout
      have hjoin : (Call.runAll calls q.freshSub).isJoin = false :=
        Call.isJoin_runAll calls q.freshSub
      refine (h.absorb _ _).addColumns (List.forall_mem_singleton.mpr ⟨?_, ?_⟩)
      · simpa [Column.WellFormed, Column.query?] using hjoin
      · simpa [Column.query?] using hsub
  | .whereEq column operand c, q, h => h.whereEq column operand c
  | .whereCompare column operator operand c, q, h => h.whereCompare column operator operand c
  | .whereGroup calls c, q, h => h.addGroup (Call.tended_runAll calls q.tended_fresh) c
  | .whereAll pairs c, q, h => h.whereAll pairs c
  | .addGroup recipe c, q, h => h.addGroup recipe.tended_build c
  | .onlyIf condition calls, q, h => by
      rw [Call.run]
      split_ifs
      · exact Call.tended_runAll calls h
      · exact h
  | .whereRaw sql values c, q, h =>
      (h.bindAll .filter values).addPredicate trivial (by simp [Predicate.query?])
  | .whereIn column operands negated c, q, h =>
      (h.bindAll .filter _).addPredicate trivial (by simp [Predicate.query?])
  | .whereInSub column calls negated c, q, h => by
      have hsub := (Call.tended_runAll calls q.tended_freshSub).throughout
      exact (h.absorb _ .filter).addPredicate (Call.isJoin_runAll calls q.freshSub)
        (by simpa [Predicate.query?] using hsub)
  | .whereNull column negated c, q, h => h.addPredicate trivial (by simp [Predicate.query?])
  | .whereBetween column low high negated c, q, h =>
      ((h.bindAll .filter _).bindAll .filter _).addPredicate trivial (by simp [Predicate.query?])
  | .whereSub column operator calls c, q, h => by
      have hsub := (Call.tended_runAll calls q.tended_freshSub).throughout
      rw [Call.run, Query.whereSub]
      split_ifs with hknown
      · exact (h.absorb _ .filter).addPredicate
          ⟨Style.lists_lower hknown, Call.isJoin_runAll calls q.freshSub⟩
          (by simpa [Predicate.query?] using hsub)
      · exact h.failWith _
  | .whereExists calls negated c, q, h => by
      have hsub := (Call.tended_runAll calls q.tended_freshSub).throughout
      exact (h.absorb _ .filter).addPredicate (Call.isJoin_runAll calls q.freshSub)
        (by simpa [Predicate.query?] using hsub)
  | .whereColumns first operator second c, q, h => h.whereColumns first operator second c
  | .addJoin kind table calls, q, h => by
      have hinner := (JoinCall.tended_runAll calls (q.tended_freshJoin table)).throughout
      exact { h.absorb (JoinCall.runAll calls (q.freshJoin table)) .join with
        joins := List.forall_mem_append.mpr ⟨h.joins, List.forall_mem_singleton.mpr
          ⟨JoinCall.isJoin_runAll calls (q.freshJoin table), hinner⟩⟩ }
  | .groupBy columns, q, h => h.groupBy (Selection.tended_columns columns)
  | .groupByRaw sql, q, h => h.groupBy (by simp [Column.WellFormed, Column.query?])
  | .having column operator operand c, q, h => h.having column operator operand c
  | .havingRaw sql values c, q, h => (h.bindAll .having values).addHaving trivial
  | .havingBetween column low high, q, h =>
      ((h.bindAll .having _).bindAll .having _).addHaving trivial
  | .orderBy column direction, q, h => h.addOrder _
  | .orderByText column direction, q, h => h.orderByText column direction
  | .orderByRaw sql values, q, h => (h.withBindings _).addOrder _
  | .orderRandomly seed, q, h => h.addOrder _
  | .setLimit n, q, h => h.setLimit n
  | .setOffset n, q, h => h.setOffset n
  | .forPage page perPage, q, h => (h.setOffset _).setLimit perPage
  | .addArm recipe all, q, h => h.addArm recipe.isJoin_build recipe.tended_build.throughout all
  | .addArmSub all calls, q, h =>
      h.addArm (Call.isJoin_runAll calls q.freshSub)
        (Call.tended_runAll calls q.tended_freshSub).throughout all
  | .insertRow pairs, q, h => h.insertRow pairs
  | .insertReturning pairs sequence, q, h => { h.insertRow pairs with }
  | .toAggregate function columns, q, h => h.toAggregate function columns
  | .toFresh, q, _ => q.tended_fresh
  -- the calls that touch none of the clauses
  | .onTable _, _, h | .onRaw _, _, h | .makeDistinct, _, h | .onWriter, _, h | .setLock _, _, h
  | .insertColumns _, _, h | .insertValues _, _, h | .setAssignments _, _, h
  | .makeDelete, _, h => { h with }

/-- **A run.** -/
theorem Call.tended_runAll : ∀ (calls : List Call) {q : Query}, q.Tended →
    (Call.runAll calls q).Tended
  | [], _, h => h
  | call :: calls, _, h => Call.tended_runAll calls (call.tended_run h)

/-- The predicates of a join are tended like those of a query, by the same operations. -/
theorem JoinCall.tended_run : ∀ (call : JoinCall) {q : Query}, q.Tended → (call.run q).Tended
  | .on first operator second c, _, h => h.whereColumns first operator second c
  | .group calls, q, h => h.addGroup (JoinCall.tended_runAll calls q.tended_fresh) .and
  | .whereEq column operand c, _, h => h.whereEq column operand c
  | .whereCompare column operator operand c, _, h => h.whereCompare column operator operand c
  | .whereGroup calls c, q, h => h.addGroup (Call.tended_runAll calls q.tended_fresh) c
  | .whereAll pairs c, _, h => h.whereAll pairs c
  | .whereNull column negated, _, h => h.addPredicate trivial (by simp [Predicate.query?])
  | .whereIn column operands, _, h =>
      (h.bindAll .filter _).addPredicate trivial (by simp [Predicate.query?])
  | .whereRaw sql values, _, h =>
      (h.bindAll .filter values).addPredicate trivial (by simp [Predicate.query?])

theorem JoinCall.tended_runAll : ∀ (calls : List JoinCall) {q : Query}, q.Tended →
    (JoinCall.runAll calls q).Tended
  | [], _, h => h
  | call :: calls, _, h => JoinCall.tended_runAll calls (call.tended_run h)

/-- A subquery that is given as a column is the query of a recipe. -/
theorem Selection.tended_columns : ∀ columns : List Selection,
    ∀ c ∈ Selection.columns columns, c.WellFormed ∧ ∀ part ∈ c.query?, part.Throughout
  | [] => by simp [Selection.columns]
  | .name _ :: columns | .raw _ :: columns => by
      refine List.forall_mem_cons.mpr ⟨?_, Selection.tended_columns columns⟩
      simp [Selection.column, Column.WellFormed, Column.query?]
  | .sub recipe _ :: columns => by
      refine List.forall_mem_cons.mpr ⟨?_, Selection.tended_columns columns⟩
      have hpart := recipe.tended_build.throughout
      simpa [Selection.column, Column.WellFormed, Column.query?] using
        ⟨recipe.isJoin_build, hpart⟩

/-- **A program.** -/
theorem Recipe.tended_build : ∀ r : Recipe, r.build.Tended
  | ⟨style, calls⟩ => Call.tended_runAll calls (Query.empty style).tended_fresh

end

/-! ## The statement -/

/-- **Every part of a query is well-formed**, whatever is called to put the query together and
however deep the part is inside of it. -/
theorem every_part_is_well_formed (r : Recipe) {part : Query} (h : part.Within r.build) :
    part.WellFormed :=
  r.tended_build.throughout part h

/-- An arm of a union in a subquery of a group in a group of a join.  One of its operators was given
in capitals, and its comparison with null has become a test. -/
theorem every_part_is_well_formed_in_join :
    let arm : List Call := [.onTable "w", .whereCompare "c" "LIKE" (.value (.text "x")) .or,
      .whereCompare "d" "!=" (.value .null) .and]
    let r : Recipe := ⟨.plain .postgres, [.onTable "t", .addJoin .left "u"
      [.group [.whereGroup [.whereInSub "a" [.onTable "v", .addArmSub true arm] false .and] .or]]]⟩
    let part := Call.runAll arm (Query.empty r.style)
    part.Within r.build ∧ part.WellFormed := by
  intro arm r part
  have hwithin : part.Within r.build :=
    .head List.mem_cons_self (.head List.mem_cons_self (.head List.mem_cons_self
      (.head List.mem_cons_self (.head List.mem_cons_self .refl))))
  exact ⟨hwithin, every_part_is_well_formed r hwithin⟩

end SqlWeave
