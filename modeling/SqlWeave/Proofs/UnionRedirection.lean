import SqlWeave.Proofs.Families

/-!
# Orderings and pages of a union

From the moment a query has a union, an ordering or a page is that of the combined result.  A dozen
calls have to see to this, and so do the values: those of the ordering of the union share a category
with those of the united statements and have to come after all of them, whatever is united later.

* `Bindings.armValues`, `Bindings.orderValues` — the two shares of the category.
* `Query.Redirects` — **the invariant** of every query under construction.
* `Call.orderTerms`, `Call.orderValues`, `Call.turnPage` — **the specification**: what a call asks
  for, in the order in which it was asked.
* `Query.Redirected` — what a call does once there is a union.
* `union_redirects` — the statement for callers.
-/

namespace SqlWeave

/-! ## The values of a union -/

namespace Bindings

/-- The values of the united statements. -/
def armValues (b : Bindings) : List Value :=
  b.union.take (b.union.length - b.unionTail)

/-- The values of the ordering of the union. -/
def orderValues (b : Bindings) : List Value :=
  b.union.drop (b.union.length - b.unionTail)

/-- The two shares are the whole category, the united statements in front. -/
lemma union_eq (b : Bindings) : b.union = b.armValues ++ b.orderValues :=
  (List.take_append_drop _ _).symm

/-- The values of the ordering are counted by the tail. -/
def Tidy (b : Bindings) : Prop :=
  b.unionTail ≤ b.union.length

variable {b : Bindings}

/-- The tail is the count of the second share, which is what it is kept for. -/
lemma Tidy.length_orderValues (h : b.Tidy) : b.orderValues.length = b.unionTail := by
  rw [orderValues, List.length_drop]
  exact Nat.sub_sub_self h

/-- A category that is put together from its two shares. -/
lemma shares_of_union {us os : List Value} (hunion : b.union = us ++ os)
    (htail : b.unionTail = os.length) : b.Tidy ∧ b.armValues = us ∧ b.orderValues = os := by
  have hstart : b.union.length - b.unionTail = us.length := by simp [hunion, htail]
  refine ⟨by simp [Tidy, hunion, htail], ?_, ?_⟩
  · rw [armValues, hstart, hunion, List.take_left]
  · rw [orderValues, hstart, hunion, List.drop_left]

/-- Values of a united statement go to the end of the first share. -/
lemma Tidy.extend_union (h : b.Tidy) (values : List Value) :
    (b.extend .union values).Tidy ∧
      (b.extend .union values).armValues = b.armValues ++ values ∧
      (b.extend .union values).orderValues = b.orderValues := by
  have htail := h.length_orderValues
  rw [extend]
  split_ifs with hpos
  · exact shares_of_union rfl htail.symm
  · have hzero : b.unionTail = 0 := by
      have hnot : ¬ 0 < b.unionTail := fun hlt => hpos ⟨rfl, hlt⟩
      omega
    have hnil : b.orderValues = [] := List.eq_nil_of_length_eq_zero (htail.trans hzero)
    have hunion : b.union = b.armValues := by rw [union_eq b, hnil, List.append_nil]
    rw [hnil]
    refine shares_of_union ?_ hzero
    rw [List.append_nil, ← hunion]
    rfl

/-- They change no other category. -/
lemma exists_extend_union (b : Bindings) (values : List Value) :
    ∃ us, b.extend .union values = { b with union := us } := by
  rw [extend]
  split_ifs
  · exact ⟨_, rfl⟩
  · exact ⟨_, rfl⟩

/-- Values of an ordering go to the end of the second one. -/
lemma Tidy.extendUnionOrder (h : b.Tidy) (values : List Value) :
    (b.extendUnionOrder values).Tidy ∧
      (b.extendUnionOrder values).armValues = b.armValues ∧
      (b.extendUnionOrder values).orderValues = b.orderValues ++ values := by
  refine shares_of_union ?_ ?_
  · rw [← List.append_assoc, ← union_eq]
    rfl
  · rw [List.length_append, h.length_orderValues]
    rfl

end Bindings

/-! ## The invariant -/

namespace Query

/-- What a query says about its ordering, its page and its unions. -/
def arrangement (q : Query) : List Order × Page × List Value × List Arm × List Order × Page
    × List Value × Nat :=
  (q.orders, q.page, q.bindings.order, q.arms, q.unionOrders, q.unionPage, q.bindings.union,
    q.bindings.unionTail)

/-- **Orderings and pages of a union need one.**  Without a union there are none, and with one the
values of all united statements come first. -/
structure Redirects (q : Query) : Prop where
  tidy : q.bindings.Tidy
  armValues : q.bindings.armValues = q.arms.flatMap fun arm => arm.query.bindings.flatten
  without : q.hasUnion = false →
    q.unionOrders = [] ∧ q.unionPage = .all ∧ q.bindings.orderValues = []

/-- A new query has no union and nothing that belongs to one. -/
lemma redirects_fresh (q : Query) : q.fresh.Redirects where
  tidy := Nat.le_refl 0
  armValues := rfl
  without := fun _ => ⟨rfl, rfl, rfl⟩

variable {q q' q'' : Query}

/-- A query that says the same about its unions. -/
lemma Redirects.congr (h : q.Redirects) (harms : q'.arms = q.arms)
    (horders : q'.unionOrders = q.unionOrders) (hpage : q'.unionPage = q.unionPage)
    (hunion : q'.bindings.union = q.bindings.union)
    (htail : q'.bindings.unionTail = q.bindings.unionTail) : q'.Redirects := by
  obtain ⟨htidy, harmValues, horderValues⟩ := Bindings.shares_of_union
    (hunion.trans q.bindings.union_eq) (htail.trans h.tidy.length_orderValues.symm)
  refine ⟨htidy, by rw [harmValues, harms, h.armValues], fun hno => ?_⟩
  rw [hasUnion, harms] at hno
  rw [horders, hpage, horderValues]
  exact h.without hno

/-- With a union, all is in the values. -/
lemma redirects_of_hasUnion (hunion : q.hasUnion = true) (htidy : q.bindings.Tidy)
    (harms : q.bindings.armValues = q.arms.flatMap fun arm => arm.query.bindings.flatten) :
    q.Redirects := by
  refine ⟨htidy, harms, fun hno => absurd hunion ?_⟩
  rw [hno]
  exact Bool.false_ne_true

end Query

/-! ## What is asked for -/

mutual

/-- The terms that a call appends to an ordering. -/
def Call.orderTerms : Call → List Order
  | .orderBy column direction => [.column column direction]
  | .orderByText column direction =>
    match Direction.ofText direction with
    | .ok d => [.column column d]
    | .error _ => []
  | .orderByRaw sql _ => [.raw sql]
  | .orderRandomly seed => [.random seed]
  | .onlyIf condition calls => if condition then Call.allOrderTerms calls else []
  | _ => []

/-- The terms that several calls append to an ordering. -/
def Call.allOrderTerms : List Call → List Order
  | [] => []
  | call :: calls => call.orderTerms ++ Call.allOrderTerms calls

end

mutual

/-- The values that a call binds to an ordering. -/
def Call.orderValues : Call → List Value
  | .orderByRaw _ values => values
  | .onlyIf condition calls => if condition then Call.allOrderValues calls else []
  | _ => []

/-- The values that several calls bind to an ordering. -/
def Call.allOrderValues : List Call → List Value
  | [] => []
  | call :: calls => call.orderValues ++ Call.allOrderValues calls

end

mutual

/-- What a call makes of a page. -/
def Call.turnPage : Call → Page → Page
  | .setLimit n, p => { p with limit := some n }
  | .setOffset n, p => { p with offset := some n }
  | .forPage page perPage, _ => ⟨some perPage, some (Query.rowsBefore page perPage)⟩
  | .onlyIf condition calls, p => if condition then Call.turnPages calls p else p
  | _, p => p

/-- What several calls make of a page. -/
def Call.turnPages : List Call → Page → Page
  | [], p => p
  | call :: calls, p => Call.turnPages calls (call.turnPage p)

end

mutual

/-- Whether a call changes a query, instead of putting another one in its place. -/
def Call.mutates : Call → Bool
  | .toAggregate _ _ | .toFresh => false
  | .onlyIf condition calls => !condition || Call.allMutate calls
  | _ => true

/-- Whether several calls change a query. -/
def Call.allMutate : List Call → Bool
  | [] => true
  | call :: calls => call.mutates && Call.allMutate calls

end

/-! ## What a call does -/

namespace Query

variable {q q' q'' : Query} {terms terms' : List Order} {values values' : List Value}
  {turn turn' : Page → Page}

/-- **A query with a union before and after a change**: what is ordered and paged is the union, and
the rest of the ordering and the page stays as it is. -/
structure Redirected (q q' : Query) (terms : List Order) (values : List Value)
    (turn : Page → Page) : Prop where
  hasUnion : q'.hasUnion = true
  orders : q'.orders = q.orders
  page : q'.page = q.page
  order : q'.bindings.order = q.bindings.order
  unionOrders : q'.unionOrders = q.unionOrders ++ terms
  unionPage : q'.unionPage = turn q.unionPage
  orderValues : q'.bindings.orderValues = q.bindings.orderValues ++ values

/-- Changes one after the other: the terms and the values in their order, the later page over the
earlier. -/
lemma Redirected.trans (h : q.Redirected q' terms values turn)
    (h' : q'.Redirected q'' terms' values' turn') :
    q.Redirected q'' (terms ++ terms') (values ++ values') (turn' ∘ turn) where
  hasUnion := h'.hasUnion
  orders := h'.orders.trans h.orders
  page := h'.page.trans h.page
  order := h'.order.trans h.order
  unionOrders := by rw [h'.unionOrders, h.unionOrders, List.append_assoc]
  unionPage := by rw [h'.unionPage, h.unionPage, Function.comp_apply]
  orderValues := by rw [h'.orderValues, h.orderValues, List.append_assoc]

/-- The invariant after a change and, with a union, what the change was. -/
def Arranged (q q' : Query) (terms : List Order) (values : List Value) (turn : Page → Page) :
    Prop :=
  q'.Redirects ∧ (q.hasUnion = true → q.Redirected q' terms values turn)

/-- The second change meets the union that the first one left, so both are redirected. -/
lemma Arranged.trans (h : q.Arranged q' terms values turn)
    (h' : q'.Arranged q'' terms' values' turn') :
    q.Arranged q'' (terms ++ terms') (values ++ values') (turn' ∘ turn) :=
  ⟨h'.1, fun hunion => (h.2 hunion).trans (h'.2 (h.2 hunion).hasUnion)⟩

/-- The form in which a run speaks of calls, where those that put another query in the place are
excepted. -/
lemma Arranged.of_mutates {mutates : Prop} (h : q.Arranged q' terms values turn) :
    q'.Redirects ∧ (mutates → q.hasUnion = true → q.Redirected q' terms values turn) :=
  ⟨h.1, fun _ => h.2⟩

/-- Most calls have nothing to do with all this. -/
lemma Redirects.untouched (h : q.Redirects) (heq : q'.arrangement = q.arrangement) :
    q.Arranged q' [] [] id := by
  simp only [arrangement, Prod.mk.injEq] at heq
  obtain ⟨horders, hpage, horder, harms, hunionOrders, hunionPage, hunion, htail⟩ := heq
  refine ⟨h.congr harms hunionOrders hunionPage hunion htail, fun hyes => ?_⟩
  exact {
    hasUnion := by rwa [hasUnion, harms]
    orders := horders
    page := hpage
    order := horder
    unionOrders := by rw [hunionOrders, List.append_nil]
    unionPage := hunionPage
    orderValues := by rw [Bindings.orderValues, hunion, htail, List.append_nil]; rfl }

/-! ### Orderings -/

/-- The one place where it is decided whose ordering a term belongs to. -/
lemma Redirects.addOrder (h : q.Redirects) (o : Order) :
    q.Arranged (q.addOrder o) [o] [] id := by
  rw [Query.addOrder]
  split_ifs with hunion
  · refine ⟨redirects_of_hasUnion hunion h.tidy h.armValues, fun _ => ?_⟩
    exact ⟨hunion, rfl, rfl, rfl, rfl, rfl, (List.append_nil _).symm⟩
  · exact ⟨h.congr rfl rfl rfl rfl rfl, fun hyes => absurd hyes hunion⟩

/-- The values of an ordering, without its text. -/
lemma Redirects.bindOrder (h : q.Redirects) (values : List Value) :
    q.Arranged (q.bindOrder values) [] values id := by
  rw [Query.bindOrder]
  split_ifs with hunion
  · obtain ⟨htidy, harms, horders⟩ := h.tidy.extendUnionOrder values
    refine ⟨redirects_of_hasUnion hunion htidy (harms.trans h.armValues), fun _ => ?_⟩
    exact ⟨hunion, rfl, rfl, rfl, (List.append_nil _).symm, rfl, horders⟩
  · exact ⟨h.congr rfl rfl rfl rfl rfl, fun hyes => absurd hyes hunion⟩

/-- The values first and then the text, each put where the other is. -/
lemma Redirects.orderByRaw (h : q.Redirects) (sql : String) (values : List Value) :
    q.Arranged (q.orderByRaw sql values) [.raw sql] values id := by
  have hbind := h.bindOrder values
  have htrans := hbind.trans (hbind.1.addOrder (.raw sql))
  rwa [List.nil_append, List.append_nil] at htrans

/-! ### Pages -/

/-- The one place where it is decided whose limit it is. -/
lemma Redirects.setLimit (h : q.Redirects) (n : UInt64) :
    q.Arranged (q.setLimit n) [] [] fun p => { p with limit := some n } := by
  rw [Query.setLimit]
  split_ifs with hunion
  · refine ⟨redirects_of_hasUnion hunion h.tidy h.armValues, fun _ => ?_⟩
    exact ⟨hunion, rfl, rfl, rfl, (List.append_nil _).symm, rfl, (List.append_nil _).symm⟩
  · exact ⟨h.congr rfl rfl rfl rfl rfl, fun hyes => absurd hyes hunion⟩

lemma Redirects.setOffset (h : q.Redirects) (n : UInt64) :
    q.Arranged (q.setOffset n) [] [] fun p => { p with offset := some n } := by
  rw [Query.setOffset]
  split_ifs with hunion
  · refine ⟨redirects_of_hasUnion hunion h.tidy h.armValues, fun _ => ?_⟩
    exact ⟨hunion, rfl, rfl, rfl, (List.append_nil _).symm, rfl, (List.append_nil _).symm⟩
  · exact ⟨h.congr rfl rfl rfl rfl rfl, fun hyes => absurd hyes hunion⟩

/-! ### Unions -/

lemma hasUnion_addArm (q arm : Query) (all : Bool) : (q.addArm arm all).hasUnion = true := by
  simp [Query.addArm, hasUnion]

/-- The values of one more statement go before those of the ordering. -/
lemma Redirects.addArm (h : q.Redirects) (arm : Query) (all : Bool) :
    q.Arranged (q.addArm arm all) [] [] id := by
  obtain ⟨htidy, hshare, horders⟩ := h.tidy.extend_union arm.bindings.flatten
  have harms : (q.addArm arm all).arms = q.arms ++ [⟨arm, all⟩] := rfl
  refine ⟨redirects_of_hasUnion (q.hasUnion_addArm arm all) htidy (hshare.trans ?_), fun _ => ?_⟩
  · rw [h.armValues, harms, List.flatMap_append, List.flatMap_singleton]
  · refine ⟨q.hasUnion_addArm arm all, rfl, rfl, ?_, (List.append_nil _).symm, rfl,
      horders.trans (List.append_nil _).symm⟩
    obtain ⟨us, hus⟩ := q.bindings.exists_extend_union arm.bindings.flatten
    have horder : (q.bindings.extend .union arm.bindings.flatten).order = q.bindings.order := by
      rw [hus]
    exact horder

end Query

/-! ## Other clauses -/

/-- Whether a clause is the ordering, the page or the unions. -/
def Family.arranges : Family → Bool
  | .orders | .paging | .unions => true
  | _ => false

/-- No other elementary change touches an ordering, a page, the arms or their values. -/
lemma Family.Step.arrangement_eq {f : Family} {q q' : Query} (h : f.Step q q')
    (hf : f.arranges = false) : q'.arrangement = q.arrangement := by
  cases h with
  | addOrder | addUnionOrder | bindOrder | bindUnionOrder | setPage | setUnionPage | addArm =>
      cases hf
  | _ => rfl

lemma Family.Steps.arrangement_eq {f : Family} {q q' : Query} (h : f.Steps q q')
    (hf : f.arranges = false) : q'.arrangement = q.arrangement :=
  h.unchanged fun hstep => hstep.arrangement_eq hf

/-- A call that leaves all of this as it is asks for nothing. -/
lemma Call.arranged_of_eq (call : Call) {q : Query} (h : q.Redirects)
    (heq : (call.run q).arrangement = q.arrangement) : q.Arranged (call.run q) [] [] id :=
  h.untouched heq

/-- A call on another clause. -/
lemma Call.arranged_of_family {call : Call} {f : Family} {q : Query} (h : q.Redirects)
    (hcall : call.family? = some f) (hf : f.arranges = false) :
    q.Arranged (call.run q) [] [] id :=
  call.arranged_of_eq h ((call.steps_run q hcall).arrangement_eq hf)

/-- A row leaves everything as it is but the insertion. -/
lemma Query.arrangement_insertRow (q : Query) (pairs : List (String × Param)) :
    (q.insertRow pairs).arrangement = q.arrangement := by
  simp only [insertRow]
  split_ifs
  · rfl
  · split <;> rfl

/-- A function over the rows of a query has no ordering of its own, unless there are groups. -/
lemma Query.Redirects.toAggregate {q : Query} (h : q.Redirects) (function : String)
    (columns : List String) : (q.toAggregate function columns).Redirects := by
  simp only [Query.toAggregate]
  split_ifs <;> exact h.congr rfl rfl rfl rfl rfl

/-! ## A run keeps the invariant -/

mutual

/-- **One call.** -/
theorem Call.arranged_run : ∀ (call : Call) {q : Query}, q.Redirects →
    (call.run q).Redirects ∧ (call.mutates = true → q.hasUnion = true →
      q.Redirected (call.run q) call.orderTerms call.orderValues call.turnPage)
  | .onlyIf true calls, _, h => Call.arranged_runAll calls h
  | .onlyIf false _, _, h => (h.untouched rfl).of_mutates
  -- orderings
  | .orderBy _ _, _, h | .orderRandomly _, _, h => (h.addOrder _).of_mutates
  | .orderByText column direction, q, h => by
      simp only [Call.run, Query.orderByText, Call.orderTerms]
      cases Direction.ofText direction with
      | ok d => exact (h.addOrder (.column column d)).of_mutates
      | error e =>
          have hfail : (q.fail e).arrangement = q.arrangement := rfl
          exact (h.untouched hfail).of_mutates
  | .orderByRaw sql values, _, h => (h.orderByRaw sql values).of_mutates
  -- pages
  | .setLimit n, _, h => (h.setLimit n).of_mutates
  | .setOffset n, _, h => (h.setOffset n).of_mutates
  | .forPage page perPage, _, h =>
      have hoffset := h.setOffset (Query.rowsBefore page perPage)
      (hoffset.trans (hoffset.1.setLimit perPage)).of_mutates
  -- unions
  | .addArm recipe all, _, h => (h.addArm recipe.build all).of_mutates
  | .addArmSub all _, _, h => (h.addArm _ all).of_mutates
  -- another query in its place
  | .toAggregate function columns, _, h => ⟨h.toAggregate function columns, nofun⟩
  | .toFresh, q, _ => ⟨q.redirects_fresh, nofun⟩
  -- changes
  | .insertRow pairs, q, h =>
      (Call.arranged_of_eq (.insertRow pairs) h (q.arrangement_insertRow pairs)).of_mutates
  | .insertReturning pairs sequence, q, h =>
      (Call.arranged_of_eq (.insertReturning pairs sequence) h
        (q.arrangement_insertRow pairs)).of_mutates
  | .insertColumns _, _, h | .insertValues _, _, h | .setAssignments _, _, h | .makeDelete, _, h =>
      (Call.arranged_of_eq _ h rfl).of_mutates
  -- other clauses
  | .onTable _, _, h | .onRaw _, _, h | .select _, _, h | .addColumns _, _, h | .addRaw _ _, _, h
  | .addSub _ _, _, h | .makeDistinct, _, h | .onWriter, _, h | .whereEq _ _ _, _, h
  | .whereCompare _ _ _ _, _, h | .whereGroup _ _, _, h | .whereAll _ _, _, h | .addGroup _ _, _, h
  | .whereRaw _ _ _, _, h | .whereIn _ _ _ _, _, h | .whereInSub _ _ _ _, _, h
  | .whereNull _ _ _, _, h | .whereBetween _ _ _ _ _, _, h | .whereSub _ _ _ _, _, h
  | .whereExists _ _ _, _, h | .whereColumns _ _ _ _, _, h | .addJoin _ _ _, _, h
  | .groupBy _, _, h | .groupByRaw _, _, h | .having _ _ _ _, _, h | .havingRaw _ _ _, _, h
  | .havingBetween _ _ _, _, h | .setLock _, _, h =>
      (Call.arranged_of_family h rfl rfl).of_mutates

/-- **A run.** -/
theorem Call.arranged_runAll : ∀ (calls : List Call) {q : Query}, q.Redirects →
    (Call.runAll calls q).Redirects ∧ (Call.allMutate calls = true → q.hasUnion = true →
      q.Redirected (Call.runAll calls q) (Call.allOrderTerms calls) (Call.allOrderValues calls)
        (Call.turnPages calls))
  | [], _, h => (h.untouched rfl).of_mutates
  | call :: calls, _, h => by
      obtain ⟨hcall, hdoes⟩ := call.arranged_run h
      obtain ⟨hcalls, hdo⟩ := Call.arranged_runAll calls hcall
      refine ⟨hcalls, fun hmutate hunion => ?_⟩
      rw [Call.allMutate, Bool.and_eq_true] at hmutate
      have hfirst := hdoes hmutate.1 hunion
      exact hfirst.trans (hdo hmutate.2 hfirst.hasUnion)

end

/-! ## The statement -/

/-- **Orderings and pages go to the union as soon as there is one.**  Whatever is called on a new
query: without a union, the query orders, pages and binds nothing for one.  With a union, later
calls leave the ordering of the query itself, its page and the values of its ordering as they are.
What they order is appended to the ordering of the union, what they page is the page of the union,
and the values of the ordering come after those of all united statements, the later ones
included.  The predicates of a join are a query that never has a union. -/
theorem union_redirects (b : Query) (before : List Call) :
    let q := Call.runAll before b.fresh
    (q.hasUnion = false → q.unionOrders = [] ∧ q.unionPage = .all ∧ q.bindings.union = []) ∧
      (q.hasUnion = true → ∀ later, Call.allMutate later = true →
        let q' := Call.runAll later q
        q'.hasUnion = true ∧
          q'.orders = q.orders ∧ q'.page = q.page ∧ q'.bindings.order = q.bindings.order ∧
          q'.unionOrders = q.unionOrders ++ Call.allOrderTerms later ∧
          q'.unionPage = Call.turnPages later q.unionPage ∧
          q'.bindings.union = (q'.arms.flatMap fun arm => arm.query.bindings.flatten)
            ++ (q.bindings.orderValues ++ Call.allOrderValues later)) ∧
      ∀ (table : String) (calls : List JoinCall),
        let j := JoinCall.runAll calls (b.freshJoin table)
        j.hasUnion = false ∧ j.unionOrders = [] ∧ j.unionPage = .all ∧ j.bindings.union = [] := by
  intro q
  have hq : q.Redirects := (Call.arranged_runAll before b.redirects_fresh).1
  refine ⟨fun hno => ?_, fun hyes later hmutate => ?_, fun table calls => ?_⟩
  · obtain ⟨horders, hpage, hvalues⟩ := hq.without hno
    have harms : q.arms = [] := by simpa [Query.hasUnion] using hno
    refine ⟨horders, hpage, ?_⟩
    rw [q.bindings.union_eq, hq.armValues, harms, hvalues]
    rfl
  · intro q'
    obtain ⟨hinvariant, hdo⟩ := Call.arranged_runAll later hq
    have hlater := hdo hmutate hyes
    refine ⟨hlater.hasUnion, hlater.orders, hlater.page, hlater.order, hlater.unionOrders,
      hlater.unionPage, ?_⟩
    rw [q'.bindings.union_eq, hinvariant.armValues, hlater.orderValues]
  · intro j
    have hsame : j.arrangement = (b.freshJoin table).arrangement :=
      (JoinCall.steps_runAll calls (b.freshJoin table)).arrangement_eq rfl
    simp only [Query.arrangement, Prod.mk.injEq] at hsame
    obtain ⟨-, -, -, harms, horders, hpage, hunion, -⟩ := hsame
    exact ⟨by rw [Query.hasUnion, harms]; rfl, horders, hpage, hunion⟩

/-- The values of an ordering between two united statements end behind those of both, and a page
that is set under a condition is that of the union. -/
theorem union_redirects_between_arms :
    let arm (n : Int64) : Recipe :=
      ⟨.plain .mysql, [.onTable "b", .whereEq "c" (.value (.int n)) .and]⟩
    let q := Call.runAll [.onTable "a", .orderBy "d" .desc, .setLimit 3, .addArm (arm 1) false]
      (Query.empty (.plain .mysql)).fresh
    let later : List Call := [.orderByRaw "e = ?" [.int 9], .onlyIf true [.forPage 2 5],
      .addArm (arm 2) true]
    let q' := Call.runAll later q
    Call.allMutate later = true ∧ q.hasUnion = true ∧ q'.orders = [.column "d" .desc] ∧
      q'.page = ⟨some 3, none⟩ ∧ q'.unionOrders = [.raw "e = ?"] ∧
      q'.unionPage = ⟨some 5, some 5⟩ ∧ q'.bindings.union = [.int 1, .int 2, .int 9] := by
  intro arm q later q'
  have hmutate : Call.allMutate later = true := rfl
  have hunion : q.hasUnion = true := rfl
  obtain ⟨-, horders, hpage, -, hterms, hturned, hvalues⟩ :=
    (union_redirects (Query.empty (.plain .mysql))
      [.onTable "a", .orderBy "d" .desc, .setLimit 3, .addArm (arm 1) false]).2.1 hunion later
      hmutate
  exact ⟨hmutate, hunion, horders, hpage, hterms, hturned, hvalues⟩

end SqlWeave
