import SqlWeave.Proofs.ChangeValues
import SqlWeave.Proofs.Correspondence.Run
import SqlWeave.Proofs.Placeholder.Orderly
import SqlWeave.Proofs.Placeholder.Weaving

/-!
# Placeholders and values come in the same order

The text of a statement is put together when it is finished, and its values are collected while it
is built.  For a neat program the two agree: there are as many placeholders as values, and with the
values written into its placeholders the statement is the one that the program would have made by
writing each value where it was given.

* `select_binds_in_order` — **selects** of orderly programs.
* `change_binds_in_order` — **insertions, updates and deletions**, with the order of their values,
  as `Query.changeValues` gives it.
* `change_loses_values` — what happens to programs that do not account for the values of the columns
  of an embedded query.
-/

namespace SqlWeave

/-! ## Finished statements -/

/-- What the finished statement of a neat program has in common with that of the same program with
its values in place. -/
lemma Recipe.woven_compile {r : Recipe} {st : Statement} {quote : Value → String}
    (hneat : r.neat = true) (hacc : r.accounted (r.build.kind = .select) = true)
    (hquote : Marking quote) (h : r.build.compile = .ok st) :
    ∃ st', (r.inline quote).build.compile = .ok st' ∧
      Text.Woven quote (fun v => r.build.kind = .insert ∧ v = .null) st.sql st.values st'.sql
        st'.values := by
  have hs : r.style.Neat := by
    cases r
    rw [Recipe.neat, Bool.and_eq_true, decide_eq_true_eq] at hneat
    exact hneat.1
  have hnull : r.build.kind = .insert →
      (weaving hquote fun v => r.build.kind = .insert ∧ v = .null).operand (.value .null)
        (.value .null) := by
    intro hkind
    have hcarries := Text.carries_sql_value .null
    exact ⟨hcarries, hcarries, fun v hv => ⟨hkind, List.mem_singleton.mp hv⟩, Nat.le_refl _, rfl⟩
  exact ((weaving.recipe_inline hquote r hneat).outcome_compile hs (Or.inr hacc) hnull).ok_of_ok h

/-- What is known of a computation that is known to succeed with some result. -/
lemma exists_ok_of_toOption {ε α β : Type} {x : Except ε α} {f : α → β} {b : β}
    (h : x.toOption.map f = some b) : ∃ a, x = .ok a ∧ f a = b := by
  cases x with
  | ok a => exact ⟨a, rfl, Option.some.inj h⟩
  | error e => cases h

/-! ## Selects -/

/-- **Selects bind in order.**  There are as many placeholders as values, and writing the values
into them gives the statement of the program that writes each value where it is given. -/
theorem select_binds_in_order {r : Recipe} {st : Statement} (hneat : r.neat = true)
    (horderly : r.orderly = true) (hkind : r.build.kind = .select)
    (h : r.build.compile = .ok st) :
    st.placeholders = st.values.length ∧ ∀ quote, Marking quote →
      (r.inline quote).build.compile = .ok ⟨st.interpolate quote, []⟩ := by
  have hacc := r.accounted_of_orderly (r.build.kind = .select) horderly
  refine ⟨?_, fun quote hquote => ?_⟩
  · obtain ⟨st', -, hwoven⟩ := Recipe.woven_compile hneat hacc marking_letter h
    exact hwoven.carries.counted
  · obtain ⟨st', hst', hwoven⟩ := Recipe.woven_compile hneat hacc hquote h
    have hnone : st'.values = [] := by
      refine List.eq_nil_iff_forall_not_mem.mpr fun v hv => ?_
      have hinsert := (hwoven.rest v hv).1
      rw [hkind] at hinsert
      cases hinsert
    have hsql : st'.sql = st.interpolate quote := by
      rw [Statement.interpolate, hwoven.agree, hnone, Text.interpolate_nil]
    rw [hst', ← hsql, ← hnone]

/-- A select with values in every category, given in another order than the one they are written
in. -/
theorem select_binds_in_order_every_category :
    let program : Recipe := ⟨.plain .postgres, [.addArmSub true [.onTable "w",
        .whereEq "z" (.value (.int 7)) .and], .orderByRaw "f(?)" [.int 8],
      .havingRaw "sum(n) > ?" [.int 6] .and, .groupBy [.name "n"],
      .whereGroup [.whereExists [.onTable "v", .whereIn "y" [.value (.int 4), .raw "now()"] false
        .and] true .and, .whereCompare "x" "why?" (.value .null) .or] .and,
      .addJoin .left "u" [.on "u.id" "=" "t.id" .and, .whereEq "u.d->k" (.value (.int 3)) .and],
      .addRaw "?::text || '?'" [.int 1], .addSub "s" [.onTable "m", .select [.name "n"],
        .whereEq "k" (.value (.int 2)) .and], .onTable "t", .setLimit 9]⟩
    ∃ st, program.build.compile = .ok st ∧ st.values.length = 8 ∧
      st.placeholders = st.values.length ∧ ∀ quote, Marking quote →
        (program.inline quote).build.compile = .ok ⟨st.interpolate quote, []⟩ := by
  intro program
  obtain ⟨st, hst, hlength⟩ : ∃ st, program.build.compile = .ok st ∧ st.values.length = 8 :=
    exists_ok_of_toOption (by decide +kernel)
  exact ⟨st, hst, hlength, select_binds_in_order (by decide +kernel) (by decide +kernel)
    (by decide +kernel) hst⟩

/-! ## Changes -/

/-- **Changes bind in order.**  There are as many placeholders as values, these are the values of
the clauses that are written, and writing them in gives the statement of the program that writes
each value where it is given.  That program may still bind null, for the cells that a row of an
insertion lacks. -/
theorem change_binds_in_order {r : Recipe} {st : Statement} (hneat : r.neat = true)
    (hacc : r.accounted false = true) (hkind : r.build.kind ≠ .select)
    (h : r.build.compile = .ok st) :
    st.placeholders = st.values.length ∧ st.values = r.build.changeValues ∧
      ∀ quote, Marking quote → ∃ st', (r.inline quote).build.compile = .ok st' ∧
        st'.interpolate quote = st.interpolate quote ∧
        ∀ v ∈ st'.values, r.build.kind = .insert ∧ v = .null := by
  have hwhole : r.accounted (r.build.kind = .select) = true := by
    rw [decide_eq_false hkind]
    exact hacc
  refine ⟨?_, Query.values_of_compile h hkind, fun quote hquote => ?_⟩
  · obtain ⟨st', -, hwoven⟩ := Recipe.woven_compile hneat hwhole marking_letter h
    exact hwoven.carries.counted
  · obtain ⟨st', hst', hwoven⟩ := Recipe.woven_compile hneat hwhole hquote h
    exact ⟨st', hst', hwoven.agree.symm, hwoven.rest⟩

/-- An update whose assignments are written behind its join, one of them without its value. -/
theorem change_binds_in_order_joined_update :
    let program : Recipe := ⟨.plain .mysql, [.onTable "t", .whereExists [.onTable "v",
        .whereEq "y" (.value (.int 4)) .and] false .and, .orderByRaw "f(?)" [.int 5],
      .setAssignments [("t.a", .value (.int 2)), ("t.d->n", .value (.int 9)),
        ("t.d->s", .value (.text "it's")), ("b", .raw "now()")],
      .addJoin .inner "u" [.on "u.id" "=" "t.id" .and, .whereEq "u.c" (.value (.int 1)) .and],
      .setLimit 3]⟩
    ∃ st, program.build.compile = .ok st ∧ st.values.length = 5 ∧
      st.placeholders = st.values.length ∧ st.values = program.build.changeValues ∧
      ∀ quote, Marking quote → ∃ st', (program.inline quote).build.compile = .ok st' ∧
        st'.interpolate quote = st.interpolate quote ∧
        ∀ v ∈ st'.values, program.build.kind = .insert ∧ v = .null := by
  intro program
  obtain ⟨st, hst, hlength⟩ : ∃ st, program.build.compile = .ok st ∧ st.values.length = 5 :=
    exists_ok_of_toOption (by decide +kernel)
  exact ⟨st, hst, hlength, change_binds_in_order (by decide +kernel) (by decide +kernel)
    (by decide +kernel) hst⟩

/-- Two deletions that do not account for their values.  In the one a subquery is given as a column,
so that its value is missing; in the other a function over the rows is asked for before a column
with a value, so that the value is sent along without a placeholder. -/
theorem change_loses_values :
    let given : Recipe := ⟨.plain .ansi, [.onTable "t", .whereInSub "a" [.onTable "u",
      .select [.sub ⟨.plain .ansi, [.onTable "v", .whereEq "b" (.value (.int 1)) .and]⟩ "s"]]
        false .and, .makeDelete]⟩
    let late : Recipe := ⟨.plain .ansi, [.onTable "t", .whereExists [.onTable "u",
      .toAggregate "count" ["a"], .addRaw "?" [.int 1]] false .and, .makeDelete]⟩
    (given.neat = true ∧ late.neat = true) ∧
      (given.build.kind = .delete ∧ late.build.kind = .delete) ∧
      given.build.compile.toOption.map (fun st => (st.placeholders, st.values.length))
        = some (1, 0) ∧
      late.build.compile.toOption.map (fun st => (st.placeholders, st.values.length))
        = some (0, 1) := by
  decide +kernel

end SqlWeave
