import SqlWeave.Proofs.Correspondence.Steps
import SqlWeave.Proofs.Placeholder.Inlining
import SqlWeave.Proofs.Placeholder.Orderly

/-!
# Programs of comparisons

A dialect's operators are written as they are, and placeholders are found again by reading the
finished text.  Of all operators only four have a question mark, and only one dialect knows them.

* `Dialect.marked_iff` — the operators with a question mark.
* `Call.Compares`, `Recipe.Compares` — **programs of comparisons**, whatever their operators.
* `Call.marks`, `Recipe.marks` — the question marks in the operators of a program.
* `Recipe.Compares.neat`, `Recipe.Compares.orderly` — without any such a program is neat, and it is
  orderly anyway.
-/

namespace SqlWeave

open Correspondence

/-! ## Operators with question marks -/

/-- Only one dialect knows operators with a question mark. -/
lemma Dialect.marked_iff {d : Dialect} {operator : String} (h : d.knows operator = true) :
    '?' ∈ (Text.lower operator).toList ↔
      d = .postgres ∧ Text.lower operator ∈ ["?", "?|", "?&", "@?"] := by
  have hcommon : ∀ name ∈ commonOperators, '?' ∈ name.toList ↔
      d = .postgres ∧ name ∈ ["?", "?|", "?&", "@?"] := by cases d <;> decide
  have hown : ∀ name ∈ d.ownOperators, '?' ∈ name.toList ↔
      d = .postgres ∧ name ∈ ["?", "?|", "?&", "@?"] := by cases d <;> decide
  rw [knows] at h
  simp only [Bool.or_eq_true, List.contains_iff_mem] at h
  rcases h with h | h
  · exact hcommon _ h
  · exact hown _ h

/-- The question marks of an operator that is written. -/
def Style.marks (s : Style) (operator : String) : ℕ :=
  if s.knows operator then (Text.lower operator).toList.count '?' else 0

/-- An operator that the dialect knows has no marks if and only if there is no question mark in
it. -/
lemma Style.marks_eq_zero_iff {s : Style} {operator : String} (h : s.knows operator = true) :
    s.marks operator = 0 ↔ '?' ∉ (Text.lower operator).toList := by
  rw [marks, if_pos h, List.count_eq_zero]

/-- Only one dialect has operators with question marks. -/
lemma Style.marks_eq_zero {s : Style} (h : s.dialect ≠ .postgres) (operator : String) :
    s.marks operator = 0 := by
  by_cases hknows : s.knows operator = true
  · rw [marks_eq_zero_iff hknows, Dialect.marked_iff hknows]
    exact fun hmarked => h hmarked.1
  · rw [marks, if_neg hknows]

/-! ## Programs of comparisons -/

/-- A call that compares two columns in a join. -/
inductive JoinCall.Compares : JoinCall → Prop
  | on {first operator second : String} {c : Conjunction} (hfirst : Text.Neat first)
    (hsecond : Text.Neat second) : Compares (.on first operator second c)

mutual

/-- A call that names a table or compares: a column with an operand, a column with another, a column
with a subquery of such calls, a column of a group, or two columns in a join.  Names and texts are
neat, and operators are not looked at. -/
inductive Call.Compares : Call → Prop
  | onTable {name : String} (hname : Text.Neat name) : Compares (.onTable name)
  | whereCompare {column operator : String} {p : Param} {c : Conjunction}
    (hcolumn : Text.Neat column) (hp : p.neat = true) :
    Compares (.whereCompare column operator p c)
  | whereColumns {first operator second : String} {c : Conjunction} (hfirst : Text.Neat first)
    (hsecond : Text.Neat second) : Compares (.whereColumns first operator second c)
  | whereSub {column operator : String} {calls : List Call} {c : Conjunction}
    (hcolumn : Text.Neat column) (hcalls : ComparesAll calls) :
    Compares (.whereSub column operator calls c)
  | having {column operator : String} {p : Param} {c : Conjunction} (hcolumn : Text.Neat column)
    (hp : p.neat = true) : Compares (.having column operator p c)
  | addJoin {kind : JoinKind} {table : String} {calls : List JoinCall} (htable : Text.Neat table)
    (hcalls : ∀ call ∈ calls, call.Compares) : Compares (.addJoin kind table calls)

/-- Several such calls. -/
inductive Call.ComparesAll : List Call → Prop
  | nil : ComparesAll []
  | cons {call : Call} {calls : List Call} (h : call.Compares) (hs : ComparesAll calls) :
    ComparesAll (call :: calls)

end

/-- A program of such calls under a style whose own texts are neat. -/
structure Recipe.Compares (r : Recipe) : Prop where
  style : r.style.Neat
  calls : Call.ComparesAll r.calls

/-! ### Question marks -/

/-- The question marks in the operator of a call on the predicates of a join. -/
def JoinCall.marks (s : Style) : JoinCall → ℕ
  | .on _ operator _ _ => s.marks operator
  | _ => 0

/-- The question marks in the operators of several of them. -/
def JoinCall.marksAll (s : Style) : List JoinCall → ℕ
  | [] => 0
  | call :: calls => call.marks s + JoinCall.marksAll s calls

mutual

/-- The question marks in the operators of a call that compares. -/
def Call.marks (s : Style) : Call → ℕ
  | .whereCompare _ operator _ _ | .whereColumns _ operator _ _ | .having _ operator _ _ =>
    s.marks operator
  | .whereSub _ operator calls _ => s.marks operator + Call.marksAll s calls
  | .addJoin _ _ calls => JoinCall.marksAll s calls
  | _ => 0

/-- The question marks in the operators of several calls. -/
def Call.marksAll (s : Style) : List Call → ℕ
  | [] => 0
  | call :: calls => call.marks s + Call.marksAll s calls

end

/-- The question marks in the operators of a recipe. -/
def Recipe.marks (r : Recipe) : ℕ :=
  Call.marksAll r.style r.calls

lemma JoinCall.marksAll_eq_zero {s : Style} (h : s.dialect ≠ .postgres) {calls : List JoinCall}
    (hcalls : ∀ call ∈ calls, call.Compares) : JoinCall.marksAll s calls = 0 := by
  induction calls with
  | nil => rfl
  | cons call calls ih =>
      obtain ⟨hcall, hcalls⟩ := List.forall_mem_cons.mp hcalls
      rw [JoinCall.marksAll, ih hcalls]
      cases hcall with
      | on hfirst hsecond => exact Style.marks_eq_zero h _

mutual

/-- Only one dialect has operators with question marks. -/
theorem Call.Compares.marks_eq_zero {s : Style} (h : s.dialect ≠ .postgres) :
    ∀ {call : Call}, call.Compares → call.marks s = 0
  | _, .onTable _ => rfl
  | _, .whereCompare _ _ | _, .whereColumns _ _ | _, .having _ _ => Style.marks_eq_zero h _
  | _, .whereSub _ hcalls => by
      rw [Call.marks, Style.marks_eq_zero h, hcalls.marks_eq_zero h]
  | _, .addJoin _ hcalls => JoinCall.marksAll_eq_zero h hcalls

theorem Call.ComparesAll.marks_eq_zero {s : Style} (h : s.dialect ≠ .postgres) :
    ∀ {calls : List Call}, Call.ComparesAll calls → Call.marksAll s calls = 0
  | _, .nil => rfl
  | _, .cons hcall hcalls => by
      rw [Call.marksAll, hcall.marks_eq_zero h, hcalls.marks_eq_zero h]

end

/-! ### What they are otherwise -/

/-- A call that compares does not change what kind of statement the query is. -/
lemma Call.Compares.kind_run {call : Call} (h : call.Compares) (q : Query) :
    (call.run q).kind = q.kind := by
  cases h with
  | onTable hname => rfl
  | whereCompare hcolumn hp =>
      rw [Call.run, whereCompare_eq]
      simp only [Query.addComparison]
      split_ifs <;> rfl
  | whereColumns hfirst hsecond =>
      rw [Call.run, Query.whereColumns]
      split_ifs <;> rfl
  | whereSub hcolumn hcalls =>
      rw [Call.run, Query.whereSub]
      split_ifs <;> rfl
  | having hcolumn hp =>
      rw [Call.run, having_eq]
      rfl
  | addJoin htable hcalls => rfl

lemma Call.ComparesAll.kind_runAll {calls : List Call} (h : Call.ComparesAll calls) :
    ∀ q : Query, (Call.runAll calls q).kind = q.kind := by
  induction calls with
  | nil => exact fun _ => rfl
  | cons call calls ih =>
      intro q
      cases h with
      | cons hcall hcalls => rw [Call.runAll, ih hcalls, hcall.kind_run]

/-! Nothing is given as a column, and no function over the rows is asked for. -/

/-- The predicates of a join have no columns, so nothing in them can be out of order. -/
lemma JoinCall.orderlyAll_of_compares {calls : List JoinCall}
    (h : ∀ call ∈ calls, call.Compares) : JoinCall.orderlyAll calls = true := by
  induction calls with
  | nil => rfl
  | cons call calls ih =>
      obtain ⟨hcall, hcalls⟩ := List.forall_mem_cons.mp h
      rw [JoinCall.orderlyAll, ih hcalls, Bool.and_true]
      cases hcall
      rfl

mutual

/-- A call that compares gives no column and asks for no function over the rows. -/
theorem Call.Compares.orderly : ∀ {call : Call}, call.Compares →
    call.orderly = true ∧ call.aggregates = false
  | _, .onTable _ | _, .whereCompare _ _ | _, .whereColumns _ _ | _, .having _ _ => ⟨rfl, rfl⟩
  | _, .whereSub _ hcalls => ⟨hcalls.orderlyAll, rfl⟩
  | _, .addJoin _ hcalls => ⟨JoinCall.orderlyAll_of_compares hcalls, rfl⟩

theorem Call.ComparesAll.orderlyAll : ∀ {calls : List Call}, Call.ComparesAll calls →
    Call.orderlyAll calls = true
  | _, .nil => rfl
  | _, .cons hcall hcalls => by
      rw [Call.orderlyAll, hcall.orderly.1, hcall.orderly.2, hcalls.orderlyAll]
      rfl

end

/-! Without question marks in the operators everything is neat. -/

/-- Without question marks an operator is neat, whether the dialect knows it or not. -/
lemma Style.neatOperator_of_marks {s : Style} {operator : String} (h : s.marks operator = 0) :
    s.neatOperator operator = true := by
  rw [neatOperator, Bool.or_eq_true, Bool.not_eq_true', Bool.not_eq_true']
  by_cases hknows : s.knows operator = true
  · refine Or.inr (Bool.eq_false_iff.mpr fun hmark => ?_)
    rw [marks_eq_zero_iff hknows] at h
    refine h ?_
    rw [Text.lower, String.toList_ofList, List.mem_map]
    exact ⟨'?', List.contains_iff_mem.mp hmark, rfl⟩
  · exact Or.inl (Bool.eq_false_iff.mpr hknows)

/-- What is checked of a comparison, put together. -/
lemma Style.neat_operands {s : Style} {operator : String} (h : s.marks operator = 0)
    {first second : Bool} (hfirst : first = true) (hsecond : second = true) :
    (first && s.neatOperator operator && second) = true := by
  rw [hfirst, neatOperator_of_marks h, hsecond]
  rfl

/-- The predicates of a join are neat. -/
lemma JoinCall.neatAll_of_marks {s : Style} {calls : List JoinCall}
    (h : ∀ call ∈ calls, call.Compares) (hmarks : JoinCall.marksAll s calls = 0) :
    JoinCall.neatAll s calls = true := by
  induction calls with
  | nil => rfl
  | cons call calls ih =>
      obtain ⟨hcall, hcalls⟩ := List.forall_mem_cons.mp h
      rw [JoinCall.marksAll, Nat.add_eq_zero_iff] at hmarks
      rw [JoinCall.neatAll, ih hcalls hmarks.2, Bool.and_true]
      cases hcall with
      | on hfirst hsecond =>
          exact Style.neat_operands hmarks.1 (decide_eq_true hfirst) (decide_eq_true hsecond)

mutual

/-- A call that compares is neat if its operators have no question marks. -/
theorem Call.Compares.neat {s : Style} : ∀ {call : Call}, call.Compares → call.marks s = 0 →
    call.neat s = true
  | _, .onTable hname, _ => decide_eq_true hname
  | _, .whereCompare hcolumn hp, hmarks | _, .having hcolumn hp, hmarks =>
      Style.neat_operands hmarks (decide_eq_true hcolumn) hp
  | _, .whereColumns hfirst hsecond, hmarks =>
      Style.neat_operands hmarks (decide_eq_true hfirst) (decide_eq_true hsecond)
  | _, .whereSub hcolumn hcalls, hmarks =>
      Style.neat_operands (Nat.add_eq_zero_iff.mp hmarks).1 (decide_eq_true hcolumn)
        (hcalls.neatAll (Nat.add_eq_zero_iff.mp hmarks).2)
  | _, .addJoin htable hcalls, hmarks => by
      rw [Call.neat, decide_eq_true htable, JoinCall.neatAll_of_marks hcalls hmarks]
      rfl

theorem Call.ComparesAll.neatAll {s : Style} : ∀ {calls : List Call}, Call.ComparesAll calls →
    Call.marksAll s calls = 0 → Call.neatAll s calls = true
  | _, .nil, _ => rfl
  | _, .cons hcall hcalls, hmarks => by
      rw [Call.marksAll, Nat.add_eq_zero_iff] at hmarks
      rw [Call.neatAll, hcall.neat hmarks.1, hcalls.neatAll hmarks.2]
      rfl

end

namespace Recipe

variable {r : Recipe}

/-- A program is its calls on an empty query. -/
lemma build_eq (r : Recipe) : r.build = Call.runAll r.calls (Query.empty r.style) := by
  cases r
  rfl

namespace Compares

/-- A program of comparisons makes a select, and it is orderly. -/
lemma kind (h : r.Compares) : r.build.kind = .select := by
  rw [build_eq, h.calls.kind_runAll]
  rfl

lemma orderly (h : r.Compares) : r.orderly = true := by
  cases r
  exact h.calls.orderlyAll

/-- A program of comparisons is neat if there are no question marks in its operators. -/
lemma neat (h : r.Compares) (hmarks : r.marks = 0) : r.neat = true := by
  cases r
  rw [Recipe.neat, Bool.and_eq_true, decide_eq_true_eq]
  exact ⟨h.style, h.calls.neatAll hmarks⟩

end Compares

end Recipe

end SqlWeave
