import SqlWeave.Proofs.Correspondence.Calls
import SqlWeave.Proofs.Families

/-!
# Programs that account for their values

Whether the values of a program are those of columns that are written is seen from the calls alone
if no subquery is given as a column and if a function over the rows is asked for last.

* `Call.orderly`, `Recipe.orderly` — **such programs**.
* `Recipe.accounted_of_orderly` — they account for their values.
-/

namespace SqlWeave

/-! ## Orderly programs -/

/-- Whether no column is a subquery. -/
def Selection.plainAll (columns : List Selection) : Bool :=
  columns.all fun
    | .sub _ _ => false
    | _ => true

mutual

/-- Whether a call may put a function over the rows in place of the columns. -/
def Call.aggregates : Call → Bool
  | .toAggregate _ _ => true
  | .onlyIf _ calls => Call.aggregatesAny calls
  | _ => false

/-- Whether one of several calls may. -/
def Call.aggregatesAny : List Call → Bool
  | [] => false
  | call :: calls => call.aggregates || Call.aggregatesAny calls

end

mutual

/-- Whether a call gives no subquery as a column, and the calls inside of it are orderly. -/
def Call.orderly : Call → Bool
  | .select columns | .addColumns columns | .groupBy columns => Selection.plainAll columns
  | .addSub _ calls | .whereGroup calls _ | .onlyIf _ calls | .whereInSub _ calls _ _
  | .whereSub _ _ calls _ | .whereExists calls _ _ | .addArmSub _ calls => Call.orderlyAll calls
  | .addJoin _ _ calls => JoinCall.orderlyAll calls
  | .addGroup recipe _ | .addArm recipe _ => recipe.orderly
  | _ => true

/-- Whether calls are orderly and none but the last may put a function over the rows in place of
the columns. -/
def Call.orderlyAll : List Call → Bool
  | [] => true
  | call :: calls =>
    call.orderly && (!call.aggregates || calls.isEmpty) && Call.orderlyAll calls

/-- Whether the calls inside of a call on the predicates of a join are orderly. -/
def JoinCall.orderly : JoinCall → Bool
  | .group calls => JoinCall.orderlyAll calls
  | .whereGroup calls _ => Call.orderlyAll calls
  | _ => true

/-- Whether those inside of several of them are. -/
def JoinCall.orderlyAll : List JoinCall → Bool
  | [] => true
  | call :: calls => call.orderly && JoinCall.orderlyAll calls

/-- Whether the calls of a recipe are. -/
def Recipe.orderly : Recipe → Bool
  | ⟨_, calls⟩ => Call.orderlyAll calls

end

/-! ## Queries without a function over the rows -/

/-- An insertion keeps the function over the rows, if there is one. -/
lemma Query.aggregate_insertRow (q : Query) (pairs : List (String × Param)) :
    (q.insertRow pairs).aggregate = q.aggregate := by
  simp only [insertRow]
  split_ifs
  · rfl
  · split <;> rfl

mutual

/-- A call that does not aggregate. -/
theorem Call.aggregate_run : ∀ (call : Call) (q : Query), call.aggregates = false →
    q.aggregate = none → (call.run q).aggregate = none
  | .onlyIf true calls, q, h, hq => Call.aggregate_runAll calls q h hq
  | .onlyIf false _, _, _, hq => hq
  | .insertRow _, q, _, hq | .insertReturning _ _, q, _, hq => (q.aggregate_insertRow _).trans hq
  | .insertColumns _, _, _, hq | .insertValues _, _, _, hq | .setAssignments _, _, _, hq
  | .makeDelete, _, _, hq => hq
  | .toFresh, _, _, _ => rfl
  | .onTable _, q, _, hq | .onRaw _, q, _, hq | .select _, q, _, hq | .addColumns _, q, _, hq
  | .addRaw _ _, q, _, hq | .addSub _ _, q, _, hq | .makeDistinct, q, _, hq | .onWriter, q, _, hq
  | .whereEq _ _ _, q, _, hq | .whereCompare _ _ _ _, q, _, hq | .whereGroup _ _, q, _, hq
  | .whereAll _ _, q, _, hq | .addGroup _ _, q, _, hq | .whereRaw _ _ _, q, _, hq
  | .whereIn _ _ _ _, q, _, hq | .whereInSub _ _ _ _, q, _, hq | .whereNull _ _ _, q, _, hq
  | .whereBetween _ _ _ _ _, q, _, hq | .whereSub _ _ _ _, q, _, hq | .whereExists _ _ _, q, _, hq
  | .whereColumns _ _ _ _, q, _, hq | .addJoin _ _ _, q, _, hq | .groupBy _, q, _, hq
  | .groupByRaw _, q, _, hq | .having _ _ _ _, q, _, hq | .havingRaw _ _ _, q, _, hq
  | .havingBetween _ _ _, q, _, hq | .orderBy _ _, q, _, hq | .orderByText _ _, q, _, hq
  | .orderByRaw _ _, q, _, hq | .orderRandomly _, q, _, hq | .setLimit _, q, _, hq
  | .setOffset _, q, _, hq | .forPage _ _, q, _, hq | .setLock _, q, _, hq | .addArm _ _, q, _, hq
  | .addArmSub _ _, q, _, hq =>
      (Call.steps_run _ q rfl).aggregate_eq.trans hq

theorem Call.aggregate_runAll : ∀ (calls : List Call) (q : Query),
    Call.aggregatesAny calls = false → q.aggregate = none → (Call.runAll calls q).aggregate = none
  | [], _, _, hq => hq
  | call :: calls, q, h, hq => by
      rw [Call.aggregatesAny, Bool.or_eq_false_iff] at h
      exact Call.aggregate_runAll calls _ h.2 (call.aggregate_run q h.1 hq)

end

/-! ## Accounting for values -/

/-- Without a subquery among the columns there are no values to account for. -/
lemma Selection.accountedAll_of_plain {columns : List Selection} (h : plainAll columns = true) :
    accountedAll columns = true := by
  induction columns with
  | nil => rfl
  | cons column columns ih =>
      rw [plainAll, List.all_cons, Bool.and_eq_true] at h
      cases column with
      | name text => exact ih h.2
      | raw sql => exact ih h.2
      | sub recipe label => cases h.1

/-- Columns that are no subqueries, whether they are written or not. -/
lemma Selection.accounted_of_plain {columns : List Selection} (h : plainAll columns = true)
    (whole : Bool) : (!whole || accountedAll columns) = true := by
  rw [accountedAll_of_plain h, Bool.or_true]

mutual

/-- **One call.**  The values that it gives to columns are written, as no function over the rows
stands in their place. -/
theorem Call.accounted_of_orderly : ∀ (call : Call) (whole : Bool) (q : Query),
    call.orderly = true → q.aggregate = none → call.accounted whole q = true
  | .select _, whole, _, h, _ => Selection.accounted_of_plain h whole
  | .addColumns _, whole, _, h, _ => Selection.accounted_of_plain h whole
  | .groupBy _, whole, _, h, _ => Selection.accounted_of_plain h whole
  | .addRaw _ _, _, _, _, hq => by
      rw [Call.accounted, hq]
      simp
  | .addSub _ calls, _, q, h, hq => by
      rw [Call.accounted, hq, Call.accountedAll_of_orderly calls true q.freshSub h rfl]
      simp
  | .whereGroup calls _, _, q, h, _ => Call.accountedAll_of_orderly calls false q.fresh h rfl
  | .addGroup recipe _, _, _, h, _ => recipe.accounted_of_orderly false h
  | .onlyIf condition calls, whole, q, h, hq => by
      rw [Call.accounted, Call.accountedAll_of_orderly calls whole q h hq, Bool.or_true]
  | .whereInSub _ calls _ _, _, q, h, _ => Call.accountedAll_of_orderly calls true q.freshSub h rfl
  | .whereSub _ _ calls _, _, q, h, _ => by
      rw [Call.accounted, Call.accountedAll_of_orderly calls true q.freshSub h rfl, Bool.or_true]
  | .whereExists calls _ _, _, q, h, _ => Call.accountedAll_of_orderly calls true q.freshSub h rfl
  | .addJoin _ table calls, _, q, h, _ =>
      JoinCall.accountedAll_of_orderly calls (q.freshJoin table) h
  | .addArm recipe _, _, _, h, _ => recipe.accounted_of_orderly true h
  | .addArmSub _ calls, _, q, h, _ => Call.accountedAll_of_orderly calls true q.freshSub h rfl
  | .onTable _, _, _, _, _ | .onRaw _, _, _, _, _ | .makeDistinct, _, _, _, _
  | .onWriter, _, _, _, _ | .whereEq _ _ _, _, _, _, _ | .whereCompare _ _ _ _, _, _, _, _
  | .whereAll _ _, _, _, _, _ | .whereRaw _ _ _, _, _, _, _ | .whereIn _ _ _ _, _, _, _, _
  | .whereNull _ _ _, _, _, _, _ | .whereBetween _ _ _ _ _, _, _, _, _
  | .whereColumns _ _ _ _, _, _, _, _ | .groupByRaw _, _, _, _, _ | .having _ _ _ _, _, _, _, _
  | .havingRaw _ _ _, _, _, _, _ | .havingBetween _ _ _, _, _, _, _ | .orderBy _ _, _, _, _, _
  | .orderByText _ _, _, _, _, _ | .orderByRaw _ _, _, _, _, _ | .orderRandomly _, _, _, _, _
  | .setLimit _, _, _, _, _ | .setOffset _, _, _, _, _ | .forPage _ _, _, _, _, _
  | .setLock _, _, _, _, _ | .insertRow _, _, _, _, _ | .insertColumns _, _, _, _, _
  | .insertValues _, _, _, _, _ | .insertReturning _ _, _, _, _, _
  | .setAssignments _, _, _, _, _ | .makeDelete, _, _, _, _ | .toAggregate _ _, _, _, _, _
  | .toFresh, _, _, _, _ => rfl

/-- Several calls.  Only behind the last one may a function over the rows be in the place of the
columns, and nothing is asked of the query then. -/
theorem Call.accountedAll_of_orderly : ∀ (calls : List Call) (whole : Bool) (q : Query),
    Call.orderlyAll calls = true → q.aggregate = none → Call.accountedAll calls whole q = true
  | [], _, _, _, _ => rfl
  | call :: calls, whole, q, h, hq => by
      rw [Call.orderlyAll, Bool.and_eq_true, Bool.and_eq_true, Bool.or_eq_true,
        Bool.not_eq_true'] at h
      obtain ⟨⟨hcall, hlast⟩, hcalls⟩ := h
      have hrest : Call.accountedAll calls whole (call.run q) = true := by
        rcases hlast with hnone | hend
        · exact Call.accountedAll_of_orderly calls whole _ hcalls (call.aggregate_run q hnone hq)
        · rw [List.isEmpty_iff.mp hend]
          rfl
      rw [Call.accountedAll, call.accounted_of_orderly whole q hcall hq, hrest, Bool.and_self]

/-- The predicates of a join account for what is inside of them. -/
theorem JoinCall.accounted_of_orderly : ∀ (call : JoinCall) (q : Query), call.orderly = true →
    call.accounted q = true
  | .group calls, q, h => JoinCall.accountedAll_of_orderly calls q.fresh h
  | .whereGroup calls _, q, h => Call.accountedAll_of_orderly calls false q.fresh h rfl
  | .on _ _ _ _, _, _ | .whereEq _ _ _, _, _ | .whereCompare _ _ _ _, _, _ | .whereAll _ _, _, _
  | .whereNull _ _, _, _ | .whereIn _ _, _, _ | .whereRaw _ _, _, _ => rfl

theorem JoinCall.accountedAll_of_orderly : ∀ (calls : List JoinCall) (q : Query),
    JoinCall.orderlyAll calls = true → JoinCall.accountedAll calls q = true
  | [], _, _ => rfl
  | call :: calls, q, h => by
      rw [JoinCall.orderlyAll, Bool.and_eq_true] at h
      rw [JoinCall.accountedAll, call.accounted_of_orderly q h.1,
        JoinCall.accountedAll_of_orderly calls (call.run q) h.2, Bool.and_self]

/-- **An orderly program accounts for its values.** -/
theorem Recipe.accounted_of_orderly : ∀ (r : Recipe) (whole : Bool), r.orderly = true →
    r.accounted whole = true
  | ⟨style, calls⟩, whole, h => Call.accountedAll_of_orderly calls whole (Query.empty style) h rfl

end

end SqlWeave
