import SqlWeave.Proofs.Placeholder.Operators
import SqlWeave.Proofs.Refusals
import SqlWeave.Proofs.UnionAggregate

/-!
# Subqueries among the columns

A subquery can be made for the column that it becomes, or be given as a column that is finished.
The texts are the same, but only in the first case does the query hear of the values and of the
refusal of its subquery.

* `Query.widened` — a finished statement with more values of columns.
* `Query.compile_absorb_select` — what becomes of a statement whose query takes over the values and
  the refusal of a subquery among its columns.
* `given_subquery_keeps_its_values` — the two ways for every query and every subquery, and when they
  agree.
* `given_subquery_disagrees` — they do not always agree.
-/

namespace SqlWeave

/-- Values of columns stand in front of all others. -/
lemma Bindings.flatten_extend_select (b : Bindings) (values : List Value) :
    (b.extend .select values).flatten
      = b.flatten.take b.select.length ++ values ++ b.flatten.drop b.select.length := by
  have hextended : (b.extend .select values).flatten
      = b.select ++ values ++ (b.join ++ (b.filter ++ (b.having ++ (b.order ++ b.union)))) := by
    rw [b.extend_of_ne (by decide), flatten_eq]
    rfl
  rw [hextended, flatten_eq, List.take_left, List.drop_left]

namespace Query

/-- A finished statement of a query with more values behind those of its columns.  Only a select has
values of columns. -/
def widened (q : Query) (values : List Value) (st : Statement) : Statement :=
  if q.kind = .select then
    { st with
      values := st.values.take q.bindings.select.length ++ values
        ++ st.values.drop q.bindings.select.length }
  else st

/-! ## Taking over values and a refusal -/

variable {q sub : Query} {values : List Value} {st : Statement}

/-- A statement is left as it was only by no values, or if it is no select. -/
lemma widened_eq_self_iff :
    q.widened values st = st ↔ (q.kind = .select → values = []) := by
  rw [widened]
  split_ifs with hkind
  · refine ⟨fun h _ => ?_, fun h => ?_⟩
    · have hlength := congrArg (fun st => st.values.length) h
      simp only [List.length_append, List.length_take, List.length_drop] at hlength
      exact List.eq_nil_of_length_eq_zero (by omega)
    · rw [h hkind, List.append_nil, List.take_append_drop]
  · exact iff_of_true rfl fun hselect => absurd hselect hkind

lemma absorb_eq_rebound (hq : q.error = none) (hsub : sub.error = none) :
    q.absorb sub .select = q.rebound (q.bindings.extend .select sub.bindings.flatten) := by
  have herror : q.failWith sub.error = q := by
    rw [failWith, hq, hsub, Option.none_or]
    cases q
    cases hq
    rfl
  rw [absorb, herror]
  rfl

/-- The values of its columns have no part in how a statement is written. -/
lemma compile_extend_select (q : Query) (values : List Value) :
    (q.rebound (q.bindings.extend .select values)).compile
      = q.compile.map (q.widened values) := by
  have hvalidate : (q.rebound (q.bindings.extend .select values)).validate = q.validate := rfl
  have hrebound : (q.rebound (q.bindings.extend .select values)).kind = q.kind := rfl
  -- A change has no values of columns, so it is not widened.
  have hother : q.kind ≠ .select → q.compile.map (q.widened values) = q.compile := by
    intro hkind
    cases q.compile with
    | error e => rfl
    | ok st => exact congrArg Except.ok (widened_eq_self_iff.mpr fun h => absurd h hkind)
  cases hkind : q.kind with
  | select =>
    have hwidened (sql : String) : q.widened values ⟨sql, q.bindings.flatten⟩
        = ⟨sql, (q.bindings.extend .select values).flatten⟩ := by
      rw [widened, if_pos hkind, Bindings.flatten_extend_select]
    have htext : q.style.select (q.rebound (q.bindings.extend .select values))
        = (q.style.select q).map (q.widened values) := by
      rw [Style.select, Style.select, Style.selectText_rebound]
      cases q.style.selectText q with
      | error e => rfl
      | ok sql => exact congrArg Except.ok (hwidened sql).symm
    rw [compile_of_select hkind, compile_of_select (hrebound.trans hkind), hvalidate]
    cases q.validate with
    | error e => rfl
    | ok u => exact htext
  | insert | update | delete =>
    rw [hother (by rw [hkind]; decide), compile, compile, hvalidate, hrebound, hkind]
    rfl

/-- **What a query is written as** that takes over the values and the refusal of a subquery.  Its
own refusal comes first. -/
lemma compile_absorb_select (q sub : Query) :
    (q.absorb sub .select).compile = (q.error.or sub.error).elim
      (q.compile.map (q.widened sub.bindings.flatten)) .error := by
  cases herror : q.error.or sub.error with
  | some e => exact compile_of_error (by rw [error_absorb, herror])
  | none =>
    obtain ⟨hq, hsub⟩ := Option.or_eq_none_iff.mp herror
    rw [absorb_eq_rebound hq hsub, compile_extend_select]
    rfl

end Query

/-! ## The statement -/

/-- **A subquery that is given as a finished column and one that is made for its column**, for every
query.  A query that is given it writes the same text, and hears neither of the values of the
subquery nor of its refusal.  So a statement that is finished is the same in both ways exactly if
the subquery is not refused and, in a select, has no values. -/
theorem given_subquery_keeps_its_values (q : Query) (label : String) (calls : List Call) :
    let sub := Call.runAll calls q.freshSub
    let given := (Call.addColumns [.sub ⟨q.style, calls⟩ label]).run q
    let made := (Call.addSub label calls).run q
    made = given.absorb sub .select ∧
    made.compile = (q.error.or sub.error).elim
      (given.compile.map (given.widened sub.bindings.flatten)) .error ∧
    ∀ st, given.compile = .ok st → (made.compile = given.compile ↔
      sub.error = none ∧ (q.kind = .select → sub.bindings.flatten = [])) := by
  intro sub given made
  have hmade : made = given.absorb sub .select := rfl
  have hcompile : made.compile = (q.error.or sub.error).elim
      (given.compile.map (given.widened sub.bindings.flatten)) .error := by
    rw [hmade, Query.compile_absorb_select]
    rfl
  refine ⟨hmade, hcompile, fun st hst => ?_⟩
  have hq : q.error = none := by
    by_contra h
    obtain ⟨e, he⟩ := Option.ne_none_iff_exists'.mp h
    have hrefused : given.compile = .error e := Query.compile_of_error he
    rw [hst] at hrefused
    cases hrefused
  rw [hcompile, hq, Option.none_or, hst]
  cases sub.error with
  | some e => simp
  | none =>
    have hwidened : given.widened sub.bindings.flatten st = st ↔
        (q.kind = .select → sub.bindings.flatten = []) := Query.widened_eq_self_iff
    simpa [Except.map] using hwidened

/-- A subquery without values may be given as a column, and the same subquery with one may not. -/
theorem given_subquery_keeps_its_values_one_value :
    let q := Recipe.build ⟨.plain .postgres, [.onTable "t", .addRaw "c + ?" [.int 3],
      .whereEq "c" (.value (.int 2)) .and]⟩
    let plain : List Call := [.onTable "u", .whereColumns "u.a" "=" "t.a" .and]
    let valued : List Call := plain ++ [.whereEq "b" (.value (.int 1)) .and]
    let given (calls : List Call) := (Call.addColumns [.sub ⟨q.style, calls⟩ "s"]).run q
    let made (calls : List Call) := (Call.addSub "s" calls).run q
    (∃ st, (given plain).compile = .ok st ∧ (made plain).compile = .ok st) ∧
      ∃ st, (given valued).compile = .ok st ∧ (made valued).compile ≠ .ok st := by
  intro q plain valued given made
  obtain ⟨st, hst, -⟩ : ∃ st, (given plain).compile = .ok st ∧ st.values.length = 2 :=
    exists_ok_of_toOption (by decide +kernel)
  obtain ⟨st', hst', -⟩ : ∃ st, (given valued).compile = .ok st ∧ st.values.length = 2 :=
    exists_ok_of_toOption (by decide +kernel)
  have hplain := (given_subquery_keeps_its_values q "s" plain).2.2 st hst
  have hvalued := (given_subquery_keeps_its_values q "s" valued).2.2 st' hst'
  refine ⟨⟨st, hst, ?_⟩, st', hst', fun h => ?_⟩
  · exact (hplain.mpr ⟨rfl, fun _ => List.eq_nil_of_length_eq_zero (by decide +kernel)⟩).trans hst
  · have hlength := congrArg List.length ((hvalued.mp (h.trans hst'.symm)).2 rfl)
    revert hlength
    decide +kernel

/-- A subquery with a value, given as a finished column, leaves a placeholder without a value.  A
refused one leaves a select without the predicate that was refused. -/
theorem given_subquery_disagrees :
    let q := Recipe.build ⟨.plain .ansi, [.onTable "t", .whereEq "c" (.value (.int 2)) .and]⟩
    let valued : List Call := [.onTable "u", .whereEq "b" (.value (.int 1)) .and]
    let refused : List Call := [.onTable "u", .whereCompare "b" "<" (.value .null) .and]
    let given (calls : List Call) := (Call.addColumns [.sub ⟨q.style, calls⟩ "s"]).run q
    let made (calls : List Call) := (Call.addSub "s" calls).run q
    (given valued).compile ≠ (made valued).compile ∧
      ((given valued).compile.toOption.map fun st => (st.placeholders, st.values.length))
        = some (2, 1) ∧
      ((made valued).compile.toOption.map fun st => (st.placeholders, st.values.length))
        = some (2, 2) ∧
      (given refused).compile.toOption.map (·.sql)
        = some "select (select * from \"u\") as \"s\" from \"t\" where \"c\" = ?" ∧
      (made refused).compile = .error (.nullComparison "<") := by
  intro q valued refused given made
  have hgiven : ((given valued).compile.toOption.map fun st =>
      (st.placeholders, st.values.length)) = some (2, 1) := by decide +kernel
  have hmade : ((made valued).compile.toOption.map fun st =>
      (st.placeholders, st.values.length)) = some (2, 2) := by decide +kernel
  refine ⟨fun h => ?_, hgiven, hmade, by decide +kernel, Query.compile_of_error (by decide +kernel)⟩
  rw [h, hmade] at hgiven
  exact absurd hgiven (by decide)

end SqlWeave
