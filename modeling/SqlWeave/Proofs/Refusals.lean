import Mathlib.Tactic.Common
import SqlWeave.Query.Call
import SqlWeave.Sql.Write

/-!
# The first refusal wins

No call on a query fails.  A call that is refused leaves a note in the query, and only the query
that is finished is ever asked for its note: the queries inside of it are written without a check.
So the note of every part has to reach the whole, at every depth and in the right order.

* `Call.refusals` — **the specification**: the list of everything that is refused while a program
  runs, in the order of execution and at any depth.  It looks at the arguments of the calls and
  never at the notes.
* `Query.error_*` — what each operation does with the note.
* `Call.error_run` — one call: if the note was the first of the refusals so far, it still is.
* `Recipe.error_build` — the whole program.
* `first_refusal_decides` — the statement for callers, with what later calls and the writing of
  the statement make of the note.
-/

namespace SqlWeave

/-! ## What is refused -/

/-- A comparison with null is refused unless it asks for equality or inequality. -/
def comparisonRefusal (operator : String) (operand : Param) : Option QueryError :=
  if operand.isNull ∧ Text.lower operator ∉ ["=", "<>", "!="] then
    some (.nullComparison (Text.lower operator))
  else none

/-- Between columns and in front of a subquery, an operator that the dialect does not know is
refused. -/
def Style.operatorRefusal (s : Style) (operator : String) : Option QueryError :=
  if s.knows operator then none else some (.unknownOperator operator)

/-- A direction is refused if it is neither of the two words. -/
def directionRefusal (direction : String) : Option QueryError :=
  if Text.lower (Text.trim direction) ∈ ["asc", "desc"] then none
  else some (.unknownDirection direction)

/-- A row is refused for the first of its names that is not among the columns, once there are
columns. -/
def Query.rowRefusal (q : Query) (pairs : List (String × Param)) : Option QueryError :=
  if q.inserted.columns = [] then none
  else (((pairs.map (·.1)).filter (· ∉ q.inserted.columns)).head?).map .unknownColumn

mutual

/-- The refusals met by a query after a call, where `met` are those before it.  A query that takes
the place of another one starts without any, and one that is given as a column is taken as it
stands, with what it was refused before. -/
def Call.refusals : Call → Query → List QueryError → List QueryError
  | .addSub _ calls, q, met => met ++ Call.refusalsAll calls q.freshSub []
  | .whereCompare _ operator operand _, q, met =>
    met ++ if q.style.knows operator then (comparisonRefusal operator operand).toList else []
  | .whereGroup calls _, q, met => met ++ Call.refusalsAll calls q.fresh []
  | .addGroup recipe _, _, met => met ++ recipe.refusals
  | .onlyIf condition calls, q, met => if condition then Call.refusalsAll calls q met else met
  | .whereInSub _ calls _ _, q, met => met ++ Call.refusalsAll calls q.freshSub []
  -- under an operator that is refused nothing is built, so nothing inside is met
  | .whereSub _ operator calls _, q, met =>
    met ++ if q.style.knows operator then Call.refusalsAll calls q.freshSub []
      else [.unknownOperator operator]
  | .whereExists calls _ _, q, met => met ++ Call.refusalsAll calls q.freshSub []
  | .whereColumns _ operator _ _, q, met => met ++ (q.style.operatorRefusal operator).toList
  | .addJoin _ table calls, q, met =>
    met ++ JoinCall.refusalsAll calls (q.freshJoin table) []
  | .orderByText _ direction, _, met => met ++ (directionRefusal direction).toList
  | .addArm recipe _, _, met => met ++ recipe.refusals
  | .addArmSub _ calls, q, met => met ++ Call.refusalsAll calls q.freshSub []
  | .insertRow pairs, q, met => met ++ (q.rowRefusal pairs).toList
  | .insertReturning pairs _, q, met => met ++ (q.rowRefusal pairs).toList
  | .toFresh, _, _ => []
  | _, _, met => met

/-- The refusals met by a query after several calls. -/
def Call.refusalsAll : List Call → Query → List QueryError → List QueryError
  | [], _, met => met
  | call :: calls, q, met => Call.refusalsAll calls (call.run q) (call.refusals q met)

/-- The refusals met by the predicates of a join after a call. -/
def JoinCall.refusals : JoinCall → Query → List QueryError → List QueryError
  | .on _ operator _ _, q, met => met ++ (q.style.operatorRefusal operator).toList
  | .group calls, q, met => met ++ JoinCall.refusalsAll calls q.fresh []
  | .whereCompare _ operator operand _, q, met =>
    met ++ if q.style.knows operator then (comparisonRefusal operator operand).toList else []
  | .whereGroup calls _, q, met => met ++ Call.refusalsAll calls q.fresh []
  | _, _, met => met

/-- The refusals met by the predicates of a join after several calls. -/
def JoinCall.refusalsAll : List JoinCall → Query → List QueryError → List QueryError
  | [], _, met => met
  | call :: calls, q, met => JoinCall.refusalsAll calls (call.run q) (call.refusals q met)

/-- The refusals met while a recipe is followed. -/
def Recipe.refusals : Recipe → List QueryError
  | ⟨style, calls⟩ => Call.refusalsAll calls (Query.empty style) []

end

/-! ## What each operation does with the note -/

namespace Query

@[simp] lemma error_bind (q : Query) (c : Category) (p : Param) :
    (q.bind c p).error = q.error := rfl

@[simp] lemma error_addPredicate (q : Query) (p : Predicate) :
    (q.addPredicate p).error = q.error := rfl

@[simp] lemma error_fail (q : Query) (e : QueryError) :
    (q.fail e).error = q.error.or (some e) := rfl

@[simp] lemma error_absorb (q sub : Query) (c : Category) :
    (q.absorb sub c).error = q.error.or sub.error := rfl

@[simp] lemma error_fresh (q : Query) : q.fresh.error = none := rfl

/-- A comparison adds the refusal of a null, behind what is noted already. -/
lemma error_addComparison (q : Query) (column operator : String) (operand : Param)
    (c : Conjunction) : (q.addComparison column operator operand c).error
      = q.error.or (comparisonRefusal operator operand) := by
  simp only [addComparison, comparisonRefusal]
  by_cases hnull : operand.isNull
  · by_cases heq : Text.lower operator = "="
    · simp [hnull, heq, whereNull]
    · by_cases hne : Text.lower operator = "<>" ∨ Text.lower operator = "!="
      · rcases hne with hne | hne <;> simp [hnull, hne, whereNull]
      · rw [not_or] at hne
        simp [hnull, heq, hne.1, hne.2]
  · simp [hnull]

/-- Equality with null is a test for null and never refused. -/
@[simp] lemma error_whereEq (q : Query) (column : String) (operand : Param) (c : Conjunction) :
    (q.whereEq column operand c).error = q.error := by
  have hlower : Text.lower "=" = "=" := by decide
  simp [whereEq, error_addComparison, comparisonRefusal, hlower]

/-- An operator that is not listed is read as an operand, and then there is nothing to refuse. -/
@[simp] lemma error_whereCompare (q : Query) (column operator : String) (operand : Param)
    (c : Conjunction) : (q.whereCompare column operator operand c).error
      = q.error.or
        (if q.style.knows operator then comparisonRefusal operator operand else none) := by
  rw [whereCompare]
  split_ifs with hknown
  · exact error_addComparison ..
  · rw [Option.or_none]
    exact error_whereEq ..

/-- The note of a group is taken over even if the group itself is dropped. -/
@[simp] lemma error_addGroup (q inner : Query) (c : Conjunction) :
    (q.addGroup inner c).error = q.error.or inner.error := by
  rw [addGroup]
  split_ifs <;> rfl

lemma error_foldl_whereEq (pairs : List (String × Param)) (c : Conjunction) :
    ∀ q : Query, (pairs.foldl (fun q pair => q.whereEq pair.1 pair.2 c) q).error = q.error := by
  induction pairs with
  | nil => intro q; rfl
  | cons pair pairs ih =>
      intro q
      rw [List.foldl_cons, ih, error_whereEq]

@[simp] lemma error_whereAll (q : Query) (pairs : List (String × Param)) (c : Conjunction) :
    (q.whereAll pairs c).error = q.error := by
  simp [whereAll, whereGroup, error_foldl_whereEq]

/-- Between columns the operator cannot be an operand, so one that is not listed is refused. -/
@[simp] lemma error_whereColumns (q : Query) (first operator second : String) (c : Conjunction) :
    (q.whereColumns first operator second c).error
      = q.error.or (q.style.operatorRefusal operator) := by
  rw [whereColumns, Style.operatorRefusal]
  split_ifs <;> simp

/-- On groups a null is compared like any other value. -/
@[simp] lemma error_having (q : Query) (column operator : String) (operand : Param)
    (c : Conjunction) : (q.having column operator operand c).error = q.error := by
  rw [having]
  split_ifs <;> rfl

@[simp] lemma error_addOrder (q : Query) (o : Order) : (q.addOrder o).error = q.error := by
  rw [addOrder]
  split_ifs <;> rfl

/-- The one refusal that is about a word other than an operator. -/
@[simp] lemma error_orderByText (q : Query) (column direction : String) :
    (q.orderByText column direction).error = q.error.or (directionRefusal direction) := by
  simp only [orderByText, Direction.ofText, directionRefusal]
  by_cases hasc : Text.lower (Text.trim direction) = "asc"
  · simp [hasc, orderBy]
  · by_cases hdesc : Text.lower (Text.trim direction) = "desc"
    · simp [hdesc, orderBy]
    · simp [hasc, hdesc]

@[simp] lemma error_setLimit (q : Query) (n : UInt64) : (q.setLimit n).error = q.error := by
  rw [setLimit]
  split_ifs <;> rfl

@[simp] lemma error_setOffset (q : Query) (n : UInt64) : (q.setOffset n).error = q.error := by
  rw [setOffset]
  split_ifs <;> rfl

@[simp] lemma error_toAggregate (q : Query) (function : String) (columns : List String) :
    (q.toAggregate function columns).error = q.error := by
  simp only [toAggregate]
  split_ifs <;> rfl

/-- The first row sets the columns; the rows behind it are measured against them. -/
@[simp] lemma error_insertRow (q : Query) (pairs : List (String × Param)) :
    (q.insertRow pairs).error = q.error.or (q.rowRefusal pairs) := by
  simp only [insertRow, rowRefusal]
  by_cases hcols : q.inserted.columns = []
  · simp [hcols, setInsertion]
  · rw [if_neg (by simpa using hcols), if_neg hcols, List.head?_filter, List.find?_map]
    have hpred : ((fun name => decide (name ∉ q.inserted.columns)) ∘ fun pair : String × Param =>
        pair.1) = fun pair => !q.inserted.columns.contains pair.1 := by
      funext pair
      simp
    rw [hpred]
    cases List.find? (fun pair => !q.inserted.columns.contains pair.1) pairs with
    | none => simp [setInsertion]
    | some pair => simp [setInsertion]

end Query

/-! ## A run keeps the first refusal -/

/-- The first of two runs of refusals, as the note sees it. -/
lemma head?_append_toList (met : List QueryError) (e : Option QueryError) :
    (met ++ e.toList).head? = met.head?.or e := by
  cases e <;> simp [List.head?_append]

mutual

/-- **One call.**  If the note was the first refusal before the call, it is the first one after
it. -/
theorem Call.error_run : ∀ (call : Call) (q : Query) (met : List QueryError),
    q.error = met.head? → (call.run q).error = (call.refusals q met).head?
  | .addSub _ calls, q, met, h => by
      simp [Call.run, Call.refusals, Query.addSub, Query.addColumns, List.head?_append, h,
        Call.error_runAll calls q.freshSub [] rfl]
  | .whereCompare column operator operand c, q, met, h => by
      rw [Call.run, Call.refusals, Query.error_whereCompare, h]
      split_ifs
      · rw [head?_append_toList]
      · simp
  | .whereGroup calls c, q, met, h => by
      simp [Call.run, Call.refusals, Query.whereGroup, List.head?_append, h,
        Call.error_runAll calls q.fresh [] rfl]
  | .addGroup recipe c, q, met, h => by
      simp [Call.run, Call.refusals, List.head?_append, h, recipe.error_build]
  | .onlyIf condition calls, q, met, h => by
      rw [Call.run, Call.refusals]
      cases condition with
      | true => exact Call.error_runAll calls q met h
      | false => exact h
  | .whereInSub column calls negated c, q, met, h => by
      simp [Call.run, Call.refusals, Query.whereInSub, List.head?_append, h,
        Call.error_runAll calls q.freshSub [] rfl]
  | .whereSub column operator calls c, q, met, h => by
      rw [Call.run, Call.refusals, Query.whereSub]
      split_ifs
      · simp [List.head?_append, h, Call.error_runAll calls q.freshSub [] rfl]
      · simp [List.head?_append, h]
  | .whereExists calls negated c, q, met, h => by
      simp [Call.run, Call.refusals, Query.whereExists, List.head?_append, h,
        Call.error_runAll calls q.freshSub [] rfl]
  | .whereColumns first operator second c, q, met, h => by
      rw [Call.run, Call.refusals, Query.error_whereColumns, h, head?_append_toList]
  | .addJoin kind table calls, q, met, h => by
      simp [Call.run, Call.refusals, Query.addJoin, List.head?_append, h,
        JoinCall.error_runAll calls (q.freshJoin table) [] rfl]
  | .orderByText column direction, q, met, h => by
      rw [Call.run, Call.refusals, Query.error_orderByText, h, head?_append_toList]
  | .addArm recipe all, q, met, h => by
      simp [Call.run, Call.refusals, Query.addArm, List.head?_append, h, recipe.error_build]
  | .addArmSub all calls, q, met, h => by
      simp [Call.run, Call.refusals, Query.addArmSub, Query.addArm, List.head?_append, h,
        Call.error_runAll calls q.freshSub [] rfl]
  | .insertRow pairs, q, met, h => by
      rw [Call.run, Call.refusals, Query.error_insertRow, h, head?_append_toList]
  | .insertReturning pairs sequence, q, met, h => by
      rw [Call.run, Call.refusals, Query.insertReturning, Query.error_insertRow, h,
        head?_append_toList]
  | .toFresh, q, met, h => rfl
  -- the calls that refuse nothing
  | .onTable _, _, _, h | .onRaw _, _, _, h | .select _, _, _, h | .addColumns _, _, _, h
  | .addRaw _ _, _, _, h | .makeDistinct, _, _, h | .onWriter, _, _, h
  | .whereRaw _ _ _, _, _, h | .whereIn _ _ _ _, _, _, h | .whereNull _ _ _, _, _, h
  | .whereBetween _ _ _ _ _, _, _, h | .groupBy _, _, _, h | .groupByRaw _, _, _, h
  | .havingRaw _ _ _, _, _, h | .havingBetween _ _ _, _, _, h | .setLock _, _, _, h
  | .insertColumns _, _, _, h | .insertValues _, _, _, h | .setAssignments _, _, _, h
  | .makeDelete, _, _, h => h
  | .whereEq _ _ _, _, _, h | .whereAll _ _, _, _, h | .having _ _ _ _, _, _, h
  | .orderBy _ _, _, _, h | .orderByRaw _ _, _, _, h | .orderRandomly _, _, _, h
  | .setLimit _, _, _, h | .setOffset _, _, _, h | .forPage _ _, _, _, h
  | .toAggregate _ _, _, _, h => by
      simp [Call.run, Call.refusals, Query.orderBy, Query.orderByRaw, Query.orderRandomly,
        Query.forPage, h]

/-- **A run.** -/
theorem Call.error_runAll : ∀ (calls : List Call) (q : Query) (met : List QueryError),
    q.error = met.head? → (Call.runAll calls q).error = (Call.refusalsAll calls q met).head?
  | [], _, _, h => h
  | call :: calls, q, met, h =>
      Call.error_runAll calls (call.run q) (call.refusals q met) (call.error_run q met h)

/-- **One call on a join.**  A group meets its refusals in a new query and hands over the first of
them. -/
theorem JoinCall.error_run : ∀ (call : JoinCall) (q : Query) (met : List QueryError),
    q.error = met.head? → (call.run q).error = (call.refusals q met).head?
  | .on first operator second c, q, met, h => by
      rw [JoinCall.run, JoinCall.refusals, Query.error_whereColumns, h, head?_append_toList]
  | .group calls, q, met, h => by
      simp [JoinCall.run, JoinCall.refusals, Query.whereGroup, List.head?_append, h,
        JoinCall.error_runAll calls q.fresh [] rfl]
  | .whereCompare column operator operand c, q, met, h => by
      rw [JoinCall.run, JoinCall.refusals, Query.error_whereCompare, h]
      split_ifs
      · rw [head?_append_toList]
      · simp
  | .whereGroup calls c, q, met, h => by
      simp [JoinCall.run, JoinCall.refusals, Query.whereGroup, List.head?_append, h,
        Call.error_runAll calls q.fresh [] rfl]
  | .whereNull _ _, _, _, h | .whereIn _ _, _, _, h | .whereRaw _ _, _, _, h => h
  | .whereEq _ _ _, _, _, h | .whereAll _ _, _, _, h => by
      simp [JoinCall.run, JoinCall.refusals, h]

theorem JoinCall.error_runAll : ∀ (calls : List JoinCall) (q : Query) (met : List QueryError),
    q.error = met.head? → (JoinCall.runAll calls q).error = (JoinCall.refusalsAll calls q met).head?
  | [], _, _, h => h
  | call :: calls, q, met, h =>
      JoinCall.error_runAll calls (call.run q) (call.refusals q met) (call.error_run q met h)

/-- **A program.**  The note of the query is the first refusal of all. -/
theorem Recipe.error_build : ∀ r : Recipe, r.build.error = r.refusals.head?
  | ⟨style, calls⟩ => Call.error_runAll calls (Query.empty style) [] rfl

end

/-! ## Later calls

Whatever is called later, the note stays — as long as it is called on this query.  A call that
starts another query in its place is the one exception, and the other query has a note of its own.
-/

mutual

/-- Whether a call goes on with the query instead of starting another one. -/
def Call.goesOn : Call → Bool
  | .toFresh => false
  | .onlyIf condition calls => !condition || Call.goOn calls
  | _ => true

/-- Whether several calls go on with the query. -/
def Call.goOn : List Call → Bool
  | [] => true
  | call :: calls => call.goesOn && Call.goOn calls

end

mutual

/-- What has been refused before a call stays in front. -/
theorem Call.prefix_refusals : ∀ (call : Call) (q : Query) (met : List QueryError),
    call.goesOn = true → met <+: call.refusals q met
  | .onlyIf condition calls, q, met, h => by
      rw [Call.refusals]
      cases condition with
      | true => exact Call.prefix_refusalsAll calls q met (by simpa [Call.goesOn] using h)
      | false => exact List.prefix_rfl
  | .addSub _ _, _, _, _ | .whereCompare _ _ _ _, _, _, _ | .whereGroup _ _, _, _, _
  | .addGroup _ _, _, _, _ | .whereInSub _ _ _ _, _, _, _ | .whereSub _ _ _ _, _, _, _
  | .whereExists _ _ _, _, _, _ | .whereColumns _ _ _ _, _, _, _ | .addJoin _ _ _, _, _, _
  | .orderByText _ _, _, _, _ | .addArm _ _, _, _, _ | .addArmSub _ _, _, _, _
  | .insertRow _, _, _, _ | .insertReturning _ _, _, _, _ => by
      rw [Call.refusals]
      exact List.prefix_append _ _
  | .onTable _, _, _, _ | .onRaw _, _, _, _ | .select _, _, _, _ | .addColumns _, _, _, _
  | .addRaw _ _, _, _, _ | .makeDistinct, _, _, _ | .onWriter, _, _, _
  | .whereRaw _ _ _, _, _, _ | .whereIn _ _ _ _, _, _, _ | .whereNull _ _ _, _, _, _
  | .whereBetween _ _ _ _ _, _, _, _ | .groupBy _, _, _, _ | .groupByRaw _, _, _, _
  | .havingRaw _ _ _, _, _, _ | .havingBetween _ _ _, _, _, _ | .setLock _, _, _, _
  | .insertColumns _, _, _, _ | .insertValues _, _, _, _ | .setAssignments _, _, _, _
  | .makeDelete, _, _, _ | .whereEq _ _ _, _, _, _ | .whereAll _ _, _, _, _
  | .having _ _ _ _, _, _, _ | .orderBy _ _, _, _, _ | .orderByRaw _ _, _, _, _
  | .orderRandomly _, _, _, _ | .setLimit _, _, _, _ | .setOffset _, _, _, _
  | .forPage _ _, _, _, _ | .toAggregate _ _, _, _, _ => List.prefix_rfl

/-- What was met before stays in front, so long as no call starts the query afresh. -/
theorem Call.prefix_refusalsAll : ∀ (calls : List Call) (q : Query) (met : List QueryError),
    Call.goOn calls = true → met <+: Call.refusalsAll calls q met
  | [], _, _, _ => List.prefix_rfl
  | call :: calls, q, met, h => by
      rw [Call.goOn, Bool.and_eq_true] at h
      exact (call.prefix_refusals q met h.1).trans
        (Call.prefix_refusalsAll calls (call.run q) (call.refusals q met) h.2)

end

/-- A note stays under later calls. -/
lemma Call.error_runAll_of_goOn {calls : List Call} {q : Query} {e : QueryError}
    (hgo : Call.goOn calls = true) (h : q.error = some e) :
    (Call.runAll calls q).error = some e := by
  rw [Call.error_runAll calls q [e] h]
  obtain ⟨later, hlater⟩ := Call.prefix_refusalsAll calls q [e] hgo
  rw [← hlater]
  rfl

/-- A query with a note is not written, whatever its kind. -/
lemma Query.compile_of_error {q : Query} {e : QueryError} (h : q.error = some e) :
    q.compile = .error e := by
  rw [Query.compile, Query.validate, h]
  rfl

/-- **No refusal is lost and the first one wins.**  The note of a query is the first of all
refusals met while it was put together, at any depth; it stays under every later call on the query;
and from then on the query is answered with it, whatever kind of statement it ends as.  A query
without refusals has no note. -/
theorem first_refusal_decides (r : Recipe) :
    r.build.error = r.refusals.head? ∧
      ∀ e, r.refusals.head? = some e → ∀ calls, Call.goOn calls = true →
        (Call.runAll calls r.build).error = some e ∧
          (Call.runAll calls r.build).compile = .error e := by
  refine ⟨r.error_build, fun e he calls hgo => ?_⟩
  have hlater := Call.error_runAll_of_goOn hgo (r.error_build.trans he)
  exact ⟨hlater, Query.compile_of_error hlater⟩

/-- A direction is refused inside of a subquery of a group that has no predicates and is dropped.
The comparison with null that is refused after it, and the row after that, change nothing. -/
theorem first_refusal_decides_dropped_group :
    let r : Recipe := ⟨.plain .postgres, [.onTable "t",
      .whereGroup [.addSub "s" [.orderByText "a" "sideways"]] .and,
      .whereCompare "b" "<" (.value .null) .or]⟩
    let calls : List Call := [.insertColumns ["a"], .insertRow [("b", .value .null)]]
    r.refusals = [.unknownDirection "sideways", .nullComparison "<"] ∧
      r.build.predicates.isEmpty = true ∧
      (Call.runAll calls r.build).compile = .error (.unknownDirection "sideways") := by
  refine ⟨by decide +kernel, by decide +kernel, ?_⟩
  exact ((first_refusal_decides _).2 (.unknownDirection "sideways") (by decide +kernel) _
    (by decide +kernel)).2

end SqlWeave
