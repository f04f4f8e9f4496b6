import SqlWeave.Proofs.Correspondence.Rows
import SqlWeave.Proofs.Correspondence.Write
import SqlWeave.Proofs.Families

/-!
# Corresponding programs make corresponding statements

The two runs are followed side by side: whatever is called, corresponding queries stay so.  Calls
inside of calls are followed in the same way from corresponding empty queries, so one recursion on
the rules goes through any nesting.

* `Correspondence.CallMatch.run` — **one call**.
* `Correspondence.RecipeMatch.build` — a program.
* `Correspondence.RecipeMatch.outcome_compile` — **the statements of two programs**.
-/

namespace SqlWeave

/-! ## The values of a join

Only predicates can be called for in a join, so all values of its query are those of predicates. -/

namespace Query

/-- Values of one category leave the others alone. -/
lemma get_bindAll (q : Query) {c d : Category} (h : c ≠ d) (values : List Value) :
    (q.bindAll d values).bindings.get c = q.bindings.get c := by
  rw [bindAll, Bindings.extend]
  split_ifs <;> cases c <;> cases d <;> first | rfl | exact absurd rfl h

end Query

/-- The predicates of a query take no values but their own. -/
lemma Family.Step.get_eq {q q' : Query} (h : Family.predicates.Step q q') {c : Category}
    (hc : c ≠ .filter) : q'.bindings.get c = q.bindings.get c := by
  cases h with
  | fail | addPredicate => rfl
  | bindFilter _ values => exact q.get_bindAll hc values

/-- The values of a join, taken together, are those of its predicates. -/
lemma JoinCall.flatten_runAll (calls : List JoinCall) (q : Query) (table : String) :
    (JoinCall.runAll calls (q.freshJoin table)).bindings.flatten
      = (JoinCall.runAll calls (q.freshJoin table)).bindings.filter := by
  have hget : ∀ c, c ≠ Category.filter →
      (JoinCall.runAll calls (q.freshJoin table)).bindings.get c = [] := by
    intro c hc
    have hkept := (JoinCall.steps_runAll calls (q.freshJoin table)).unchanged
      (g := fun q => q.bindings.get c) fun hstep => hstep.get_eq hc
    refine hkept.trans ?_
    cases c <;> rfl
  simp only [Bindings.flatten, Category.all, List.flatMap_cons, List.flatMap_nil,
    hget .select (by decide), hget .join (by decide), hget .having (by decide),
    hget .order (by decide), hget .union (by decide), List.nil_append, List.append_nil]
  rfl

namespace Correspondence

variable {C : Correspondence}

/-! ## The recursion -/

/-- Values of columns that are not written, because a function over the rows stands there: there are
none, unless the values do not matter. -/
lemma parts_none {α : Type} {R : α → List Value → α → List Value → Prop} {vs vs' : List Value}
    {whole : Bool} {a : Option Aggregate}
    (hacc : C.loose ∨ (!whole || a.isNone || vs.isEmpty) = true) (hvalues : C.values vs vs') :
    whole = true → a ≠ none → C.Parts R [] vs [] vs' := by
  intro hwhole hsome
  rcases hacc with hloose | hacc
  · exact Parts.loose hloose Parts.nil hvalues
  · have hnone : a.isNone = false := by
      rw [Option.isNone_eq_false_iff, Option.isSome_iff_ne_none]
      exact hsome
    rw [hwhole, hnone, Bool.not_true, Bool.false_or, Bool.false_or, List.isEmpty_iff] at hacc
    subst hacc
    rw [C.values_eq_nil hvalues]
    exact Parts.nil

lemma SelectionsMatch.length_eq {cs cs' : List Selection} (h : C.SelectionsMatch cs cs') :
    (Selection.columns cs).length = (Selection.columns cs').length := by
  cases h with
  | nil => rfl
  | name _ hs | raw _ hs | sub _ _ hs =>
      rw [Selection.columns, Selection.columns, List.length_cons, List.length_cons, hs.length_eq]

mutual

/-- **One call.**  Corresponding queries stay so under corresponding calls. -/
theorem CallMatch.run : ∀ {s : Style} {call call' : Call}, C.CallMatch s call call' →
    ∀ {whole : Bool} {q q' : Query}, C.loose ∨ call.accounted whole q = true →
      C.QueryMatch s whole q q' → C.QueryMatch s whole (call.run q) (call'.run q')
  -- columns
  | _, _, _, .select h, whole, q, q', hacc, hq => by
      rw [Call.run, Call.run]
      rw [Call.accounted, Bool.or_eq_true, Bool.not_eq_true'] at hacc
      exact hq.select fun hwhole => h.parts (hacc.imp_right fun hplain =>
        hplain.resolve_left (by simp [hwhole]))
  | _, _, _, .addColumns h, whole, q, q', hacc, hq => by
      rw [Call.run, Call.run, ← q.bindAll_nil (c := .select) (by decide),
        ← q'.bindAll_nil (c := .select) (by decide)]
      rw [Call.accounted, Bool.or_eq_true, Bool.not_eq_true'] at hacc
      exact hq.addColumns (fun hwhole => h.parts (hacc.imp_right fun hplain =>
        hplain.resolve_left (by simp [hwhole]))) fun _ _ => Parts.nil
  | _, _, _, .addRaw h, whole, q, q', hacc, hq => by
      rw [Call.run, Call.run, Query.addRaw, Query.addRaw]
      exact hq.addColumns (fun _ => Parts.single (column_raw h))
        (parts_none hacc (C.values_of_text h))
  | _, _, _, .addSub hlabel h, whole, q, q', hacc, hq => by
      rw [Call.run, Call.run, Query.addSub, Query.addSub]
      rw [Call.accounted, Bool.and_eq_true] at hacc
      have hsub := h.runAll (hacc.imp_right And.right) (hq.freshSub true)
      have hmatch := selectMatch hsub
      exact (hq.failWith hsub).addColumns (fun _ => Parts.single (column_sub hmatch hlabel))
        (parts_none (hacc.imp_right And.left) hmatch.1)
  | _, _, _, .groupBy h, whole, q, q', hacc, hq => by
      rw [Call.run, Call.run]
      rw [Call.accounted, Bool.or_eq_true, Bool.not_eq_true'] at hacc
      exact hq.groupBy h.length_eq fun hwhole => h.parts (hacc.imp_right fun hplain =>
        hplain.resolve_left (by simp [hwhole]))
  | _, _, _, .groupByRaw h, _, _, _, _, hq =>
      hq.groupBy rfl fun _ => Parts.single (column_raw h)
  -- predicates
  | _, _, _, .whereEq hcolumn h, _, _, _, _, hq => hq.whereEq hcolumn h
  | _, _, _, .whereCompare hcolumn h, _, _, _, _, hq => hq.whereCompare hcolumn h
  | _, _, _, .whereAll h, _, _, _, _, hq => hq.whereAll h
  | _, _, _, .whereRaw h, _, _, _, _, hq => hq.addPredicate (predicate_raw h)
  | _, _, _, .whereIn hcolumn h, _, _, _, _, hq => hq.addPredicate (predicate_isIn hcolumn _ h)
  | _, _, _, .whereNull hcolumn, _, _, _, _, hq =>
      hq.addPredicate_plain (predicate_isNull hcolumn _)
  | _, _, _, .whereBetween hcolumn hlow hhigh, _, _, _, _, hq =>
      hq.whereBetween hcolumn hlow hhigh
  | _, _, _, .whereColumns hfirst hoperator hsecond, _, _, _, _, hq =>
      hq.whereColumns hfirst hoperator hsecond
  -- groups and subqueries
  | _, _, _, .whereGroup h, whole, q, q', hacc, hq => by
      rw [Call.run, Call.run, Query.whereGroup, Query.whereGroup]
      rw [Call.accounted] at hacc
      exact hq.addGroup (h.runAll hacc (hq.fresh false))
  | _, _, _, .addGroup h, whole, q, q', hacc, hq => by
      rw [Call.run, Call.run]
      rw [Call.accounted] at hacc
      exact hq.addGroup (h.build hacc)
  | _, .onlyIf condition _, _, .onlyIf h, whole, q, q', hacc, hq => by
      rw [Call.run, Call.run]
      rw [Call.accounted] at hacc
      cases condition with
      | true => exact h.runAll hacc hq
      | false => exact hq
  | _, _, _, .whereInSub hcolumn h, whole, q, q', hacc, hq => by
      rw [Call.run, Call.run, Query.whereInSub, Query.whereInSub]
      rw [Call.accounted] at hacc
      have hsub := h.runAll hacc (hq.freshSub true)
      exact hq.absorb hsub (predicate_isInSub hcolumn _ (selectMatch hsub))
  | _, _, _, .whereSub hcolumn hoperator h, whole, q, q', hacc, hq => by
      rw [Call.run, Call.run, Query.whereSub, Query.whereSub, hq.style, hq.style']
      rw [Call.accounted, hq.style] at hacc
      split_ifs with hknown
      · rw [hknown, Bool.not_true, Bool.false_or] at hacc
        have hsub := h.runAll hacc (hq.freshSub true)
        exact hq.absorb hsub (predicate_compareSub hcolumn
          (C.text_lower hknown (hoperator hknown)) (selectMatch hsub))
      · exact hq.fail _
  | _, _, _, .whereExists h, whole, q, q', hacc, hq => by
      rw [Call.run, Call.run, Query.whereExists, Query.whereExists]
      rw [Call.accounted] at hacc
      have hsub := h.runAll hacc (hq.freshSub true)
      exact hq.absorb hsub (predicate_exists _ (selectMatch hsub))
  | _, .addJoin kind table _, _, .addJoin htable h, whole, q, q', hacc, hq => by
      rw [Call.run, Call.run, Query.addJoin, Query.addJoin]
      rw [Call.accounted] at hacc
      have hinner := h.runAll hacc (hq.freshJoin htable false)
      have hjoin := joinMatch kind (t := .named table) htable hinner.isJoin_eq hinner.predicates
      rw [← JoinCall.flatten_runAll, ← JoinCall.flatten_runAll] at hjoin
      exact (hq.failWith hinner).addJoin hjoin
  -- predicates on groups, ordering and page
  | _, _, _, .having hcolumn h, _, _, _, _, hq => hq.having hcolumn h
  | _, _, _, .havingRaw h, _, _, _, _, hq => hq.addHaving (having_raw h)
  | _, _, _, .havingBetween hcolumn hlow hhigh, _, _, _, _, hq =>
      hq.havingBetween hcolumn hlow hhigh
  | _, _, _, .orderBy hcolumn, _, _, _, _, hq => hq.addOrder_plain (order_column hcolumn _)
  | _, .orderByText _ direction, _, .orderByText hcolumn, _, q, q', _, hq => by
      rw [Call.run, Call.run, Query.orderByText, Query.orderByText]
      cases Direction.ofText direction with
      | ok d => exact hq.addOrder_plain (order_column hcolumn d)
      | error e => exact hq.fail e
  | _, _, _, .orderByRaw h, _, _, _, _, hq => hq.addOrder (order_raw h)
  | _, _, _, .orderRandomly h, _, _, _, _, hq => hq.addOrder_plain (order_random h)
  | _, _, _, .setLimit, _, _, _, _, hq => hq.setLimit _
  | _, _, _, .setOffset, _, _, _, _, hq => hq.setOffset _
  | _, _, _, .forPage, _, _, _, _, hq => (hq.setOffset _).setLimit _
  | _, _, _, .setLock h, _, _, _, _, hq => hq.setLock h
  -- unions
  | _, _, _, .addArm h, whole, q, q', hacc, hq => by
      rw [Call.run, Call.run, Query.addArm, Query.addArm]
      rw [Call.accounted] at hacc
      have harm := h.build hacc
      exact (hq.failWith harm).addArm (armMatch (selectMatch harm))
  | _, _, _, .addArmSub h, whole, q, q', hacc, hq => by
      rw [Call.run, Call.run, Query.addArmSub, Query.addArmSub, Query.addArm, Query.addArm]
      rw [Call.accounted] at hacc
      have harm := h.runAll hacc (hq.freshSub true)
      exact (hq.failWith harm).addArm (armMatch (selectMatch harm))
  -- changes
  | _, _, _, .insertRow h, _, _, _, _, hq => hq.insertRow h
  | _, _, _, .insertColumns h, _, _, _, _, hq => hq.insertColumns h
  | _, _, _, .insertValues h, _, _, _, _, hq => hq.insertValues h
  | _, _, _, .insertReturning h hsequence, _, _, _, _, hq => hq.insertReturning h hsequence
  | _, _, _, .setAssignments h, _, _, _, _, hq => hq.setAssignments h
  | _, _, _, .makeDelete, _, _, _, _, hq =>
      { hq with frame := congrArg (fun f => f.makeDelete) hq.frame }
  -- the frame
  | _, _, _, .onTable h, _, _, _, _, hq => hq.withTable h
  | _, _, _, .onRaw h, _, _, _, _, hq => hq.withTable h
  | _, _, _, .makeDistinct, _, _, _, _, hq =>
      { hq with frame := congrArg (fun f => f.makeDistinct) hq.frame }
  | _, _, _, .onWriter, _, _, _, _, hq => { hq with frame := hq.frame }
  | _, _, _, .toAggregate h, _, _, _, _, hq => hq.toAggregate h
  | _, _, _, .toFresh, whole, _, _, _, hq => hq.fresh whole

/-- **A run.** -/
theorem CallsMatch.runAll : ∀ {s : Style} {calls calls' : List Call}, C.CallsMatch s calls calls' →
    ∀ {whole : Bool} {q q' : Query}, C.loose ∨ Call.accountedAll calls whole q = true →
      C.QueryMatch s whole q q' →
        C.QueryMatch s whole (Call.runAll calls q) (Call.runAll calls' q')
  | _, _, _, .nil, _, _, _, _, hq => hq
  | _, _, _, .cons h hs, _, _, _, hacc, hq => by
      rw [Call.accountedAll, Bool.and_eq_true] at hacc
      exact hs.runAll (hacc.imp_right And.right) (h.run (hacc.imp_right And.left) hq)

theorem JoinCallMatch.run : ∀ {s : Style} {call call' : JoinCall},
    C.JoinCallMatch s call call' → ∀ {whole : Bool} {q q' : Query},
      C.loose ∨ call.accounted q = true → C.QueryMatch s whole q q' →
        C.QueryMatch s whole (call.run q) (call'.run q')
  | _, _, _, .on hfirst hoperator hsecond, _, _, _, _, hq =>
      hq.whereColumns hfirst hoperator hsecond
  | _, _, _, .group h, whole, q, q', hacc, hq => by
      rw [JoinCall.run, JoinCall.run, Query.whereGroup, Query.whereGroup]
      rw [JoinCall.accounted] at hacc
      exact hq.addGroup (h.runAll hacc (hq.fresh false))
  | _, _, _, .whereEq hcolumn h, _, _, _, _, hq => hq.whereEq hcolumn h
  | _, _, _, .whereCompare hcolumn h, _, _, _, _, hq => hq.whereCompare hcolumn h
  | _, _, _, .whereGroup h, whole, q, q', hacc, hq => by
      rw [JoinCall.run, JoinCall.run, Query.whereGroup, Query.whereGroup]
      rw [JoinCall.accounted] at hacc
      exact hq.addGroup (h.runAll hacc (hq.fresh false))
  | _, _, _, .whereAll h, _, _, _, _, hq => hq.whereAll h
  | _, _, _, .whereNull hcolumn, _, _, _, _, hq =>
      hq.addPredicate_plain (predicate_isNull hcolumn _)
  | _, _, _, .whereIn hcolumn h, _, _, _, _, hq => hq.addPredicate (predicate_isIn hcolumn _ h)
  | _, _, _, .whereRaw h, _, _, _, _, hq => hq.addPredicate (predicate_raw h)

theorem JoinCallsMatch.runAll : ∀ {s : Style} {calls calls' : List JoinCall},
    C.JoinCallsMatch s calls calls' → ∀ {whole : Bool} {q q' : Query},
      C.loose ∨ JoinCall.accountedAll calls q = true → C.QueryMatch s whole q q' →
        C.QueryMatch s whole (JoinCall.runAll calls q) (JoinCall.runAll calls' q')
  | _, _, _, .nil, _, _, _, _, hq => hq
  | _, _, _, .cons h hs, _, _, _, hacc, hq => by
      rw [JoinCall.accountedAll, Bool.and_eq_true] at hacc
      exact hs.runAll (hacc.imp_right And.right) (h.run (hacc.imp_right And.left) hq)

/-- The columns that callers give, if none brings along values of its own. -/
theorem SelectionsMatch.parts : ∀ {cs cs' : List Selection}, C.SelectionsMatch cs cs' →
    C.loose ∨ Selection.accountedAll cs = true →
      C.Parts C.ColumnMatch (Selection.columns cs) [] (Selection.columns cs') []
  | _, _, .nil, _ => Parts.nil
  | _, _, .name h hs, hacc => Parts.cons (column_name h) (hs.parts hacc)
  | _, _, .raw h hs, hacc => Parts.cons (column_raw h) (hs.parts hacc)
  | _, _, .sub h hlabel hs, hacc => by
      rw [Selection.accountedAll, Bool.and_eq_true, Bool.and_eq_true, List.isEmpty_iff] at hacc
      have hsub := selectMatch (h.build (hacc.imp_right fun hall => hall.1.1))
      have hparts := Parts.cons (column_sub hsub hlabel) (hs.parts (hacc.imp_right And.right))
      rcases hacc with hloose | hacc
      · exact Parts.loose hloose hparts C.values_nil
      · have hvalues := hsub.1
        rw [hacc.1.2] at hvalues hparts
        rwa [C.values_eq_nil hvalues] at hparts

/-- **A program.** -/
theorem RecipeMatch.build : ∀ {r r' : Recipe}, C.RecipeMatch r r' →
    ∀ {whole : Bool}, C.loose ∨ r.accounted whole = true →
      C.QueryMatch r.style whole r.build r'.build
  | _, _, .mk h, _, hacc => h.runAll hacc (queryMatch_empty C _ _)

end

/-- **The statements of two programs.**  Only a select is written with all of its columns. -/
theorem RecipeMatch.outcome_compile {r r' : Recipe} (h : C.RecipeMatch r r') (hs : C.style r.style)
    (hacc : C.loose ∨ r.accounted (r.build.kind = .select) = true)
    (hnull : r.build.kind = .insert → C.operand (.value .null) (.value .null)) :
    Outcome C.StatementMatch r.build.compile r'.build.compile :=
  (h.build hacc).outcome_compile hs (fun hkind => by simp [hkind]) hnull

end Correspondence

end SqlWeave
