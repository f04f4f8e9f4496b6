import SqlWeave.Proofs.Placeholder.Neat
import SqlWeave.Sql.Write

/-!
# The values of a change

Every dialect puts the clauses of an insertion, an update or a deletion into its own order, and the
values that are sent along are listed in that order.  Clauses that the dialect does not write leave
their values behind.

* `Style.boundBy` — the values that an assignment binds.
* `Query.changeValues` — **the values of a change**, clause by clause.
* `Query.values_of_compile` — a finished change sends along these values.
-/

namespace SqlWeave

/-! ## Assignments -/

/-- The values that an assignment binds.  The value of a place inside of a document is written out
by one dialect if it is a truth value or a number. -/
def Style.boundBy (s : Style) (column : String) (p : Param) : List Value :=
  if s.dialect = .mysql ∧ Text.hasArrow column ∧ (inlineNumber? p).isSome then []
  else p.value?.toList

/-- What an assignment gives along with its text is what it binds. -/
lemma Style.assignment_values (s : Style) (column : String) (p : Param) :
    (s.assignment column p).2 = s.boundBy column p := by
  have harrow := Text.hasArrow_iff column
  unfold assignment boundBy
  split
  · next field step path hdialect hpieces =>
      rw [hpieces] at harrow
      simp only [hdialect, harrow.mpr (by simp), documentAssignment, true_and]
      cases inlineNumber? p <;> rfl
  · next hplain =>
      rw [if_neg]
      · rfl
      · rintro ⟨hdialect, hhas, -⟩
        have hlength := harrow.mp hhas
        match hpieces : Text.arrowPieces column with
        | [] | [_] => rw [hpieces] at hlength; simp at hlength
        | field :: step :: path => exact hplain field step path hdialect hpieces

/-! ## Changes -/

namespace Query

/-- The values of the assignments. -/
def assignedValues (q : Query) : List Value :=
  q.assignments.flatMap fun a => q.style.boundBy a.1 a.2

/-- **The values of a change**, in the order in which its clauses are written. -/
def changeValues (q : Query) : List Value :=
  match q.kind with
  | .select => []
  | .insert => q.inserted.rows.flatMap Param.values
  | .update =>
    if q.style.dialect = .mysql then
      q.bindings.join ++ q.assignedValues ++ q.bindings.filter ++ q.bindings.order
    else q.assignedValues ++ q.bindings.join ++ q.bindings.filter
  | .delete =>
    if q.joins.isEmpty then
      if q.style.dialect = .mysql then q.bindings.filter ++ q.bindings.order
      else q.bindings.filter
    else q.bindings.join ++ q.bindings.filter

end Query

/-! ## Finished changes -/

/-- What a computation that succeeds has been through. -/
lemma ok_of_bind_ok {ε α β : Type} {x : Except ε α} {f : α → Except ε β} {b : β}
    (h : x >>= f = .ok b) : ∃ a, x = .ok a ∧ f a = .ok b := by
  cases x with
  | ok a => exact ⟨a, rfl, h⟩
  | error e => cases h

/-- A finished statement has the values that it was put together with. -/
lemma values_of_pure {st built : Statement}
    (h : (pure built : Except QueryError Statement) = .ok st) : st.values = built.values := by
  cases h
  rfl

namespace Style

variable {s : Style} {q : Query} {st : Statement}

/-- **An insert** has the values of its rows, row by row. -/
lemma values_of_insert (h : s.insert q = .ok st) :
    st.values = q.inserted.rows.flatMap Param.values := by
  rw [insert] at h
  obtain ⟨table, -, h⟩ := ok_of_bind_ok h
  simp only [] at h
  split_ifs at h
  · cases h
  · obtain ⟨rows, -, h⟩ := ok_of_bind_ok h
    exact values_of_pure h

/-- Asking for the key adds none. -/
lemma values_of_insertReturning {column : String} (h : s.insertReturning q column = .ok st) :
    st.values = q.inserted.rows.flatMap Param.values := by
  rw [insertReturning] at h
  split at h
  · cases hinsert : s.insert q with
    | error e =>
        rw [hinsert] at h
        cases h
    | ok built =>
        rw [hinsert] at h
        cases h
        have hvalues := values_of_insert hinsert
        exact hvalues
  · exact values_of_insert h

/-- The assignments give their values in the order in which they were made. -/
lemma values_of_assignmentList {set : String} {values : List Value} (hs : q.style = s)
    (h : s.assignmentList q = .ok (set, values)) : values = q.assignedValues := by
  rw [assignmentList] at h
  split_ifs at h
  cases h
  rw [Query.assignedValues, List.flatMap_map, hs]
  simp only [assignment_values]

/-- **An update**: in one dialect the joins stand before the assignments, in the others behind them,
and an ordering has values where it is written. -/
lemma values_of_update (hs : q.style = s) (h : s.update q = .ok st) :
    st.values = if s.dialect = .mysql then
      q.bindings.join ++ q.assignedValues ++ q.bindings.filter ++ q.bindings.order
    else q.assignedValues ++ q.bindings.join ++ q.bindings.filter := by
  rw [update] at h
  obtain ⟨table, -, h⟩ := ok_of_bind_ok h
  obtain ⟨⟨set, values⟩, hset, h⟩ := ok_of_bind_ok h
  obtain ⟨joins, -, h⟩ := ok_of_bind_ok h
  obtain ⟨filter, -, h⟩ := ok_of_bind_ok h
  rw [← values_of_assignmentList hs hset]
  simp only [] at h
  by_cases hdialect : s.dialect = .mysql
  · rw [if_pos hdialect] at h ⊢
    exact values_of_pure h
  · rw [if_neg hdialect] at h ⊢
    split_ifs at h <;> exact values_of_pure h

/-- The delete from one table has the values of an ordering in one dialect. -/
lemma values_of_deletePlain {table : Table} (h : s.deletePlain q table = .ok st) :
    st.values = if s.dialect = .mysql then q.bindings.filter ++ q.bindings.order
      else q.bindings.filter := by
  rw [deletePlain] at h
  obtain ⟨filter, -, h⟩ := ok_of_bind_ok h
  simp only [] at h
  split_ifs at h ⊢ <;> exact values_of_pure h

lemma values_of_deleteJoined {table : Table} (h : s.deleteJoined q table = .ok st) :
    st.values = q.bindings.join ++ q.bindings.filter := by
  rw [deleteJoined] at h
  obtain ⟨joins, -, h⟩ := ok_of_bind_ok h
  obtain ⟨filter, -, h⟩ := ok_of_bind_ok h
  exact values_of_pure h

/-- **A delete**, by its joins and its dialect. -/
lemma values_of_delete (h : s.delete q = .ok st) :
    st.values = if q.joins.isEmpty then
        if s.dialect = .mysql then q.bindings.filter ++ q.bindings.order else q.bindings.filter
      else q.bindings.join ++ q.bindings.filter := by
  rw [delete] at h
  obtain ⟨table, -, h⟩ := ok_of_bind_ok h
  by_cases hjoins : q.joins.isEmpty = true
  · rw [if_pos hjoins] at h
    rw [values_of_deletePlain h, if_pos hjoins]
  · rw [if_neg hjoins] at h
    rw [if_neg hjoins]
    split_ifs at h
    exact values_of_deleteJoined h

end Style

/-- **A finished change sends along its values.** -/
theorem Query.values_of_compile {q : Query} {st : Statement} (h : q.compile = .ok st)
    (hkind : q.kind ≠ .select) : st.values = q.changeValues := by
  rw [compile] at h
  obtain ⟨_, -, h⟩ := ok_of_bind_ok h
  rw [changeValues]
  cases hq : q.kind with
  | select => exact absurd hq hkind
  | insert =>
      rw [hq] at h
      cases hcolumn : q.sequence with
      | none =>
          rw [hcolumn] at h
          exact Style.values_of_insert h
      | some column =>
          rw [hcolumn] at h
          exact Style.values_of_insertReturning h
  | update =>
      rw [hq] at h
      exact Style.values_of_update rfl h
  | delete =>
      rw [hq] at h
      exact Style.values_of_delete h

end SqlWeave
