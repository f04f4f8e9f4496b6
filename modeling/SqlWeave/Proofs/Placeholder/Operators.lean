import SqlWeave.Proofs.BindingOrder
import SqlWeave.Proofs.Placeholder.Comparisons

/-!
# Operators and placeholders

A question mark of an operator is taken for a placeholder.  So a program of comparisons has exactly
as many placeholders more than values as there are question marks in its operators, and without any
its values stand where they were given.

* `Query.Surplus` — **the invariant**: the clauses show that many placeholders more than values.
* `Call.Compares.surplus_run`, `Recipe.Compares.surplus_build` — one comparison, and a program of
  them.
* `comparisons_bind_in_order` — **the statement** of such a program.
* `operator_taken_for_placeholder` — a program that is misread.
-/

namespace SqlWeave

open Correspondence

/-! ## The texts of comparisons -/

/-- In a text without quotes every question mark is a placeholder. -/
lemma Chars.placeholdersFrom_eq_count {s : List Char} (h : '\'' ∉ s) :
    placeholdersFrom false s = s.count '?' := by
  induction s with
  | nil => rfl
  | cons c r ih =>
      rw [List.mem_cons, not_or] at h
      by_cases hmark : c = '?'
      · subst hmark
        rw [placeholdersFrom_mark, ih h.2, List.count_cons_self]
      · rw [placeholdersFrom_other (Ne.symm h.1) (fun hc => absurd hc hmark), ih h.2,
          List.count_cons_of_ne hmark]

/-- Something to bind to each question mark of an operator. -/
def Style.markValues (s : Style) (operator : String) : List Value :=
  List.replicate (s.marks operator) .null

namespace Style

variable {s : Style} {operator : String}

/-- As many values as question marks. -/
@[simp] lemma length_markValues (s : Style) (operator : String) :
    (s.markValues operator).length = s.marks operator :=
  List.length_replicate

/-- An operator whose question marks are taken for placeholders carries values for them. -/
lemma carries_lower (h : s.knows operator = true) :
    Text.Carries (Text.lower operator) (s.markValues operator) where
  closed := by rw [List.count_eq_zero.mpr (Dialect.ne_quote_of_knows h)]
  counted := by
    rw [length_markValues, marks, if_pos h]
    exact Chars.placeholdersFrom_eq_count (Dialect.ne_quote_of_knows h)

/-- A name and an operator, as they stand in front of what is compared. -/
lemma carries_comparison {r : Style} (hr : r.Neat) {column : String} (hcolumn : Text.Neat column)
    (h : s.knows operator = true) :
    Text.Carries (r.column column ++ " " ++ Text.lower operator) (s.markValues operator) :=
  ((carries_column hr hcolumn).append (Text.Neat.carries (by decide))).append (carries_lower h)

end Style

/-! ## The invariant

Values are kept apart from the clauses, and no text is made from them.  So a query may be looked at
as if it had bound something to each question mark of its operators too. -/

/-- The same query with other values. -/
def Query.rebound (q : Query) (b : Bindings) : Query :=
  { q with bindings := b }

/-- What a select is written as does not depend on the values that are bound. -/
lemma Style.selectText_rebound (s : Style) (q : Query) (b : Bindings) :
    s.selectText (q.rebound b) = s.selectText q := by
  rw [selectText_eq, selectText_eq]
  rfl

/-- The correspondence under which a text corresponds to itself if it carries its values. -/
abbrev carrying : Correspondence :=
  weaving marking_letter fun _ => True

/-- A predicate whose text carries values. -/
abbrev Predicate.Carries (p : Predicate) (vs : List Value) : Prop :=
  carrying.PredicateMatch p vs p vs

/-- A predicate on groups whose text carries values. -/
abbrev Having.Carries (h : Having) (vs : List Value) : Prop :=
  carrying.HavingMatch h vs h vs

/-- A query whose clauses carry values, those of each category. -/
abbrev Query.Carries (s : Style) (q : Query) (b : Bindings) : Prop :=
  carrying.QueryMatch s true (q.rebound b) (q.rebound b)

/-- The clauses carry values, more by `n` than those that are bound, unless the query is refused. -/
structure Query.Surplus (s : Style) (n : ℕ) (q : Query) : Prop where
  style : q.style = s
  carried : q.error = none →
    ∃ b : Bindings, b.flatten.length = q.bindings.flatten.length + n ∧ q.Carries s b

/-- Values of one category make all values together longer by as many. -/
lemma Bindings.length_extend (b : Bindings) {c : Category} (h : c ≠ .union) (values : List Value) :
    (b.extend c values).flatten.length = b.flatten.length + values.length := by
  rw [extend_of_ne b h, flatten_eq, flatten_eq]
  cases c
  case union => exact absurd rfl h
  all_goals
    simp only [put, get, List.length_append]
    omega

namespace carrying

variable {s : Style} {column operator : String} {c : Conjunction} {vs : List Value}

/-- A text that carries its values corresponds to itself. -/
lemma text_self {t : String} (h : Text.Carries t vs) : carrying.text t vs t vs where
  carries := h
  carries' := h
  rest := fun _ _ => trivial
  fewer := Nat.le_refl _
  agree := rfl

lemma values_self (vs : List Value) : carrying.values vs vs :=
  ⟨fun _ _ => trivial, Nat.le_refl _⟩

/-- A name, an operator and what comes behind it. -/
lemma text_comparison {r : Style} (hr : r.Neat) (hcolumn : Text.Neat column)
    (h : s.knows operator = true) {between : String} (hbetween : Text.Neat between) {t t' : String}
    (ht : carrying.text t vs t' vs) :
    carrying.text (r.column column ++ " " ++ Text.lower operator ++ between ++ t)
      (s.markValues operator ++ vs) (r.column column ++ " " ++ Text.lower operator ++ between ++ t')
      (s.markValues operator ++ vs) :=
  carrying.text_append (text_append_plain (text_self (Style.carries_comparison hr hcolumn h))
    (plain_neat hbetween)) ht

/-- A comparison carries one value for each question mark of its operator and then that of its
operand. -/
lemma predicate_compare {p : Param} (hcolumn : Text.Neat column) (h : s.knows operator = true)
    (hp : p.neat = true) :
    (Predicate.compare column (Text.lower operator) p c).Carries
      (s.markValues operator ++ p.value?.toList) :=
  predicateMatch_of_text (fun s => by rw [Style.predicateText])
    (fun s => by rw [Style.predicateText]) (values_self _) rfl fun _ hr =>
    text_comparison hr hcolumn h (by decide) (text_self (Param.carries_of_neat hp))

/-- Two columns carry nothing but what their operator asks for. -/
lemma predicate_columns {second : String} (hcolumn : Text.Neat column)
    (h : s.knows operator = true) (hsecond : Text.Neat second) :
    (Predicate.columns column (Text.lower operator) second c).Carries
      (s.markValues operator) := by
  refine predicateMatch_of_text (fun s => by rw [Style.predicateText])
    (fun s => by rw [Style.predicateText]) (values_self _) rfl fun _ hr => ?_
  rw [← List.append_nil (s.markValues operator)]
  exact text_comparison hr hcolumn h (by decide) (carrying.text_column hr hsecond)

/-- A subquery brings all of its own values behind those for the operator. -/
lemma predicate_compareSub {sub : Query} {b : Bindings} (hcolumn : Text.Neat column)
    (h : s.knows operator = true) (hsub : sub.Carries s b) :
    (Predicate.compareSub column (Text.lower operator) sub c).Carries
      (s.markValues operator ++ b.flatten) := by
  refine predicateMatch (values_self _) rfl fun r hr => ?_
  have hselect := (selectMatch hsub).2 r hr
  rw [Style.selectText_rebound] at hselect
  rw [Style.predicateText]
  exact hselect.map fun hsql => text_append_plain (C := carrying)
    (text_comparison hr hcolumn h (by decide) hsql) (plain_neat (by decide))

lemma having_compare {p : Param} (hcolumn : Text.Neat column) (h : s.knows operator = true)
    (hp : p.neat = true) :
    (Having.compare column (Text.lower operator) p c).Carries
      (s.markValues operator ++ p.value?.toList) :=
  ⟨values_self _, fun _ hr => ⟨rfl,
    text_comparison hr hcolumn h (by decide) (text_self (Param.carries_of_neat hp))⟩⟩

end carrying

/-! ## One comparison -/

namespace Style

variable (s : Style) (operator : String) (p : Param)

/-- Whatever operator is given, the one that is written is known. -/
lemma knows_comparison : s.knows (s.comparison operator p).1 = true := by
  rw [comparison]
  split_ifs with hknows
  · exact hknows
  · show s.dialect.knows "=" = true
    cases s.dialect <;> decide

/-- The operator that takes the place of an unknown one has no question mark, and an unknown one
counts for none. -/
lemma marks_comparison : s.marks (s.comparison operator p).1 = s.marks operator := by
  rw [comparison]
  split_ifs with hknows
  · rfl
  · rw [marks, marks, if_neg hknows, ite_eq_right_iff]
    exact fun _ => (by decide : (Text.lower "=").toList.count '?' = 0)

variable {p} in
/-- The operand of a neat comparison is neat, also where the operator has taken its place. -/
lemma neat_comparison (h : p.neat = true) : (s.comparison operator p).2.neat = true := by
  rw [comparison]
  split_ifs
  · exact h
  · rfl

end Style

namespace Query

variable {s : Style} {n m : ℕ} {q q' : Query} {column operator : String} {p : Param}
  {conjunction : Conjunction}

/-- The empty query shows no placeholder and binds no value. -/
lemma surplus_empty (s : Style) : (empty s).Surplus s 0 :=
  ⟨rfl, fun _ => ⟨.empty, rfl, queryMatch_empty carrying s true⟩⟩

namespace Surplus

/-- One more clause, with the values that are bound for it and those that it carries. -/
lemma extend {c : Category} (hc : c ≠ .union) {values vs : List Value} (hq : q.Surplus s n)
    (hstyle : q'.style = q.style) (herror : q'.error = q.error)
    (hbindings : q'.bindings = q.bindings.extend c values)
    (hlength : vs.length = values.length + m)
    (hcarries : ∀ b, q.Carries s b → q'.Carries s (b.extend c vs)) : q'.Surplus s (n + m) := by
  refine ⟨hstyle.trans hq.style, fun hok => ?_⟩
  obtain ⟨b, hb, hqq⟩ := hq.carried (herror.symm.trans hok)
  refine ⟨b.extend c vs, ?_, hcarries b hqq⟩
  rw [Bindings.length_extend b hc, hbindings, Bindings.length_extend _ hc, hb, hlength]
  omega

/-- **A predicate adds its share to the surplus**: the values that its text carries without being
bound. -/
lemma addPredicate (hq : q.Surplus s n) {p : Predicate} {values vs : List Value}
    (hp : p.Carries vs) (hlength : vs.length = values.length + m) :
    ((q.bindAll .filter values).addPredicate p).Surplus s (n + m) :=
  hq.extend (c := .filter) (by decide) rfl rfl rfl hlength fun _ h => h.addPredicate hp

/-- A predicate for which nothing is bound. -/
lemma addPredicate_plain (hq : q.Surplus s n) {p : Predicate} {vs : List Value}
    (hp : p.Carries vs) (hlength : vs.length = m) :
    (q.addPredicate p).Surplus s (n + m) := by
  rw [← q.bindAll_nil (c := .filter) (by decide)]
  exact hq.addPredicate hp (hlength.trans (Nat.zero_add m).symm)

lemma addHaving (hq : q.Surplus s n) {h : Having} {values vs : List Value}
    (hh : h.Carries vs) (hlength : vs.length = values.length + m) :
    ((q.bindAll .having values).addHaving h).Surplus s (n + m) :=
  hq.extend (c := .having) (by decide) rfl rfl rfl hlength fun _ h => h.addHaving hh

/-- A query that is refused owes nothing. -/
lemma fail (hq : q.Surplus s n) (e : QueryError) (m : ℕ) : (q.fail e).Surplus s m :=
  ⟨hq.style, fun hok => absurd (Option.or_eq_none_iff.mp hok).2 (by simp)⟩

/-- A refusal that is taken over changes no clause. -/
lemma failWith (hq : q.Surplus s n) (e : Option QueryError) : (q.failWith e).Surplus s n := by
  refine ⟨hq.style, fun hok => ?_⟩
  obtain ⟨b, hb, hqq⟩ := hq.carried (Option.or_eq_none_iff.mp hok).1
  exact ⟨b, hb, { hqq with frame := rfl }⟩

/-- A test for null has no placeholder. -/
lemma whereNull (hq : q.Surplus s n) (hcolumn : Text.Neat column) (negated : Bool) :
    (q.whereNull column negated conjunction).Surplus s n :=
  hq.addPredicate_plain (m := 0) (predicate_isNull hcolumn negated) rfl

/-- A comparison with null writes no operator, and is refused under any that has a question
mark. -/
lemma addComparison (hq : q.Surplus s n) (hcolumn : Text.Neat column)
    (hknows : s.knows operator = true) (hp : p.neat = true) :
    (q.addComparison column operator p conjunction).Surplus s (n + s.marks operator) := by
  have hnone : '?' ∉ (Text.lower operator).toList → s.marks operator = 0 :=
    (Style.marks_eq_zero_iff hknows).mpr
  simp only [Query.addComparison]
  split_ifs with hnull hequal hdistinct
  · rw [hnone (by rw [hequal]; decide)]
    exact hq.whereNull hcolumn false
  · rw [hnone (by rcases hdistinct with h | h <;> rw [h] <;> decide)]
    exact hq.whereNull hcolumn true
  · exact hq.fail _ _
  · refine hq.addPredicate
      (carrying.predicate_compare hcolumn hknows (Param.neat_operandFor hp)) ?_
    rw [List.length_append, Style.length_markValues, Nat.add_comm]

/-- The operator that is written is a known one, and only its question marks count. -/
lemma whereCompare (hq : q.Surplus s n) (hcolumn : Text.Neat column) (hp : p.neat = true) :
    (q.whereCompare column operator p conjunction).Surplus s (n + s.marks operator) := by
  rw [whereCompare_eq, hq.style, ← s.marks_comparison operator p]
  exact hq.addComparison hcolumn (s.knows_comparison operator p) (s.neat_comparison operator hp)

/-- On groups there is no test for null, so the count is the same for every operand. -/
lemma having (hq : q.Surplus s n) (hcolumn : Text.Neat column) (hp : p.neat = true) :
    (q.having column operator p conjunction).Surplus s (n + s.marks operator) := by
  rw [having_eq, hq.style, ← s.marks_comparison operator p]
  refine hq.addHaving (carrying.having_compare hcolumn (s.knows_comparison operator p)
    (s.neat_comparison operator hp)) ?_
  rw [List.length_append, Style.length_markValues, Nat.add_comm]

/-- Two columns bind nothing, so every question mark is one placeholder too many. -/
lemma whereColumns (hq : q.Surplus s n) (hcolumn : Text.Neat column) {second : String}
    (hsecond : Text.Neat second) :
    (q.whereColumns column operator second conjunction).Surplus s (n + s.marks operator) := by
  rw [Query.whereColumns, hq.style]
  split_ifs with hknows
  · exact hq.addPredicate_plain (carrying.predicate_columns hcolumn hknows hsecond)
      (Style.length_markValues s operator)
  · exact hq.fail _ _

/-- A subquery brings the surplus of its own comparisons. -/
lemma whereSub (hq : q.Surplus s n) (hcolumn : Text.Neat column) {build : Query → Query}
    (hsub : (build q.freshSub).Surplus s m) :
    (q.whereSub column operator build conjunction).Surplus s (n + (s.marks operator + m)) := by
  rw [Query.whereSub, hq.style]
  split_ifs with hknows
  · refine ⟨hq.style, fun hok => ?_⟩
    obtain ⟨b, hb, hmatch⟩ := hsub.carried (Option.or_eq_none_iff.mp hok).2
    have hlength : (s.markValues operator ++ b.flatten).length
        = (build q.freshSub).bindings.flatten.length + (s.marks operator + m) := by
      rw [List.length_append, Style.length_markValues, hb]
      omega
    exact ((hq.failWith _).addPredicate
      (carrying.predicate_compareSub hcolumn hknows hmatch) hlength).carried hok
  · exact hq.fail _ _

end Surplus

end Query

/-! ## Joins -/

/-- The predicates of a join bind nothing. -/
lemma JoinCall.carried_runAll {s : Style} {calls : List JoinCall}
    (h : ∀ call ∈ calls, call.Compares) : ∀ {q : Query} {vs : List Value}, q.style = s →
      carrying.Parts carrying.PredicateMatch q.predicates vs q.predicates vs →
      (JoinCall.runAll calls q).error = none →
      q.error = none ∧ (JoinCall.runAll calls q).bindings = q.bindings ∧
        ∃ ws, ws.length = vs.length + JoinCall.marksAll s calls ∧
          carrying.Parts carrying.PredicateMatch (JoinCall.runAll calls q).predicates ws
            (JoinCall.runAll calls q).predicates ws := by
  induction calls with
  | nil => exact fun _ hparts hok => ⟨hok, rfl, _, rfl, hparts⟩
  | cons call calls ih =>
      intro q vs hstyle hparts hok
      obtain ⟨hcall, hcalls⟩ := List.forall_mem_cons.mp h
      cases hcall with
      | @on first operator second c hfirst hsecond =>
          rw [JoinCall.runAll, JoinCall.run, Query.whereColumns, hstyle] at hok ⊢
          split_ifs at hok ⊢ with hknows
          · have hmore := hparts.append (Parts.single (carrying.predicate_columns (c := c) hfirst
              hknows hsecond)) fun hr => hr.1
            obtain ⟨hq, hbindings, ws, hlength, hws⟩ := ih hcalls
              (q := q.addPredicate (.columns first (Text.lower operator) second c)) hstyle hmore hok
            refine ⟨hq, hbindings, ws, ?_, hws⟩
            rw [hlength, List.length_append, Style.length_markValues, JoinCall.marksAll,
              JoinCall.marks, Nat.add_assoc]
          -- An operator that is not known leaves a refusal behind.
          · obtain ⟨hq, -⟩ := ih hcalls (q := q.fail (.unknownOperator operator)) hstyle hparts hok
            exact absurd (Option.or_eq_none_iff.mp hq).2 (by simp)

namespace Query

variable {s : Style} {n : ℕ} {q : Query}

/-- The comparisons in a join add up like those outside. -/
lemma Surplus.addJoin (hq : q.Surplus s n) {kind : JoinKind} {table : String}
    (htable : Text.Neat table) {calls : List JoinCall} (h : ∀ call ∈ calls, call.Compares) :
    (q.addJoin kind table fun inner => JoinCall.runAll calls inner).Surplus s
      (n + JoinCall.marksAll s calls) := by
  refine ⟨hq.style, fun hok => ?_⟩
  obtain ⟨-, hbindings, ws, hlength, hws⟩ := JoinCall.carried_runAll h
    (q := q.freshJoin table) hq.style Parts.nil (Option.or_eq_none_iff.mp hok).2
  have hjoin := joinMatch (C := carrying) kind (t := .named table) htable rfl hws
  suffices hadd : (q.addJoin kind table fun inner => JoinCall.runAll calls inner).Surplus s
      (n + JoinCall.marksAll s calls) from hadd.carried hok
  refine (hq.failWith (JoinCall.runAll calls (q.freshJoin table)).error).extend (c := .join)
    (by decide) rfl rfl rfl ?_ fun _ h => h.addJoin hjoin
  rw [hlength, hbindings]
  rfl

end Query

/-! ## Programs -/

mutual

/-- **One comparison.** -/
theorem Call.Compares.surplus_run {s : Style} : ∀ {call : Call}, call.Compares →
    ∀ {n : ℕ} {q : Query}, q.Surplus s n → (call.run q).Surplus s (n + call.marks s)
  | _, @Call.Compares.onTable name hname, _, _, hq => by
      refine ⟨hq.style, fun hok => ?_⟩
      obtain ⟨b, hb, hmatch⟩ := hq.carried hok
      exact ⟨b, hb, hmatch.withTable (t := .named name) hname⟩
  | _, .whereCompare hcolumn hp, _, _, hq => hq.whereCompare hcolumn hp
  | _, .whereColumns hfirst hsecond, _, _, hq => hq.whereColumns hfirst hsecond
  | _, .whereSub hcolumn hcalls, _, q, hq => by
      have hfresh : q.freshSub.Surplus s 0 := hq.style ▸ Query.surplus_empty q.style
      have hsub := hcalls.surplus_runAll hfresh
      rw [Nat.zero_add] at hsub
      exact hq.whereSub hcolumn hsub
  | _, .having hcolumn hp, _, _, hq => hq.having hcolumn hp
  | _, .addJoin htable hcalls, _, _, hq => hq.addJoin htable hcalls

theorem Call.ComparesAll.surplus_runAll {s : Style} : ∀ {calls : List Call},
    Call.ComparesAll calls → ∀ {n : ℕ} {q : Query}, q.Surplus s n →
      (Call.runAll calls q).Surplus s (n + Call.marksAll s calls)
  | _, .nil, _, _, hq => hq
  | _, .cons hcall hcalls, _, _, hq => by
      rw [Call.runAll, Call.marksAll, ← Nat.add_assoc]
      exact hcalls.surplus_runAll (hcall.surplus_run hq)

end

/-! ## Finished statements -/

/-- A select that compiles has not been refused; its text and its values are those of the query. -/
lemma Query.ok_of_compile {q : Query} {st : Statement} (hkind : q.kind = .select)
    (h : q.compile = .ok st) :
    q.error = none ∧ q.style.selectText q = .ok st.sql ∧ st.values = q.bindings.flatten := by
  rw [compile, hkind, validate] at h
  cases herror : q.error with
  | some e =>
      rw [herror] at h
      cases h
  | none =>
      rw [herror] at h
      have hselect : (q.style.selectText q).map (fun sql => (⟨sql, q.bindings.flatten⟩ : Statement))
          = .ok st := h
      cases htext : q.style.selectText q with
      | error e =>
          rw [htext] at hselect
          cases hselect
      | ok sql =>
          rw [htext] at hselect
          cases hselect
          exact ⟨rfl, rfl, rfl⟩

namespace Recipe.Compares

variable {r : Recipe} {st : Statement}

/-- **A program of comparisons.** -/
theorem surplus_build (h : r.Compares) : r.build.Surplus r.style r.marks := by
  have hrun := h.calls.surplus_runAll (Query.surplus_empty r.style)
  rwa [Nat.zero_add, ← build_eq] at hrun

/-- The placeholders that are counted are those of the values and the question marks of the
operators. -/
lemma placeholders_eq (hcompares : r.Compares) (h : r.build.compile = .ok st) :
    st.placeholders = st.values.length + r.marks := by
  obtain ⟨hok, htext, hvalues⟩ := Query.ok_of_compile hcompares.kind h
  obtain ⟨b, hb, hmatch⟩ := hcompares.surplus_build.carried hok
  have hselect := (selectMatch hmatch).2 r.style hcompares.style
  rw [Style.selectText_rebound, ← hcompares.surplus_build.style] at hselect
  obtain ⟨sql, -, hsql⟩ := hselect.ok_of_ok htext
  rw [Statement.placeholders, hsql.carries.counted, hvalues]
  exact hb

/-- Without question marks in the operators each value stands where it was given. -/
lemma inline_compile (hcompares : r.Compares) (hmarks : r.marks = 0)
    (h : r.build.compile = .ok st) {quote : Value → String} (hquote : Marking quote) :
    (r.inline quote).build.compile = .ok ⟨st.interpolate quote, []⟩ := by
  have hacc := r.accounted_of_orderly (r.build.kind = .select) hcompares.orderly
  obtain ⟨st', hst', hwoven⟩ := woven_compile (hcompares.neat hmarks) hacc hquote h
  have hnone : st'.values = [] := by
    refine List.eq_nil_iff_forall_not_mem.mpr fun v hv => ?_
    have hinsert := (hwoven.rest v hv).1
    rw [hcompares.kind] at hinsert
    cases hinsert
  rw [hst', Statement.interpolate, hwoven.agree, hnone, Text.interpolate_nil, ← hnone]

end Recipe.Compares

/-- **Comparisons bind in order.**  The operators of a program of comparisons add their question
marks to its placeholders and nothing else does, so the values are counted rightly in every dialect
but one, and in that one if no operator with a question mark is used.  Then writing the values into
the placeholders gives the statement of the program that writes each value where it is given. -/
theorem comparisons_bind_in_order {r : Recipe} {st : Statement} (hcompares : r.Compares)
    (h : r.build.compile = .ok st) :
    st.placeholders = st.values.length + r.marks ∧
      (r.style.dialect ≠ .postgres → r.marks = 0) ∧
      (r.marks = 0 → ∀ quote, Marking quote →
        (r.inline quote).build.compile = .ok ⟨st.interpolate quote, []⟩) :=
  ⟨hcompares.placeholders_eq h, fun hdialect => hcompares.calls.marks_eq_zero hdialect,
    fun hmarks _ hquote => hcompares.inline_compile hmarks h hquote⟩

/-- Two programs with operators of one dialect, the first of them without any question mark. -/
theorem comparisons_bind_in_order_own_operators :
    let unmarked : Recipe := ⟨.plain .postgres, [.onTable "t",
      .whereCompare "tags" "@>" (.value (.text "why?")) .and, .whereColumns "a" "&&" "b" .or,
      .whereSub "n" "<<=" [.onTable "u", .whereCompare "d->k" "@@" (.value (.int 2)) .and] .and,
      .having "n" "#-" (.value (.int 3)) .or, .addJoin .left "v" [.on "v.x" "||" "t.x" .and]]⟩
    let marked : Recipe := ⟨.plain .postgres, [.onTable "t",
      .addJoin .inner "v" [.on "v.x" "?|" "t.x" .and, .on "v.y" "@?" "t.y" .or],
      .whereSub "n" "=" [.onTable "u", .whereCompare "k" "?&" (.value (.int 2)) .and] .and]⟩
    (unmarked.Compares ∧ ∃ st, unmarked.build.compile = .ok st ∧ st.values.length = 3 ∧
        st.placeholders = 3 ∧ ∀ quote, Marking quote →
          (unmarked.inline quote).build.compile = .ok ⟨st.interpolate quote, []⟩) ∧
      (marked.Compares ∧ ∃ st, marked.build.compile = .ok st ∧ st.values.length = 1 ∧
        st.placeholders = 4) := by
  intro unmarked marked
  have hunmarked : unmarked.Compares := by
    refine ⟨by decide, .cons (.onTable (by decide)) <| .cons (.whereCompare (by decide) rfl) <|
      .cons (.whereColumns (by decide) (by decide)) <| .cons (.whereSub (by decide) ?_) <|
      .cons (.having (by decide) rfl) <| .cons (.addJoin (by decide) ?_) .nil⟩
    · exact .cons (.onTable (by decide)) <| .cons (.whereCompare (by decide) rfl) .nil
    · exact List.forall_mem_singleton.mpr (.on (by decide) (by decide))
  have hmarked : marked.Compares := by
    refine ⟨by decide, .cons (.onTable (by decide)) <| .cons (.addJoin (by decide) ?_) <|
      .cons (.whereSub (by decide) ?_) .nil⟩
    · exact List.forall_mem_cons.mpr ⟨.on (by decide) (by decide),
        List.forall_mem_singleton.mpr (.on (by decide) (by decide))⟩
    · exact .cons (.onTable (by decide)) <| .cons (.whereCompare (by decide) rfl) .nil
  obtain ⟨st, hst, hlength⟩ : ∃ st, unmarked.build.compile = .ok st ∧ st.values.length = 3 :=
    exists_ok_of_toOption (by decide +kernel)
  obtain ⟨st', hst', hlength'⟩ : ∃ st, marked.build.compile = .ok st ∧ st.values.length = 1 :=
    exists_ok_of_toOption (by decide +kernel)
  obtain ⟨hcount, -, hinline⟩ := comparisons_bind_in_order hunmarked hst
  obtain ⟨hcount', -⟩ := comparisons_bind_in_order hmarked hst'
  have hnone : unmarked.marks = 0 := by decide +kernel
  have hthree : marked.marks = 3 := by decide +kernel
  rw [hlength, hnone] at hcount
  rw [hlength', hthree] at hcount'
  exact ⟨⟨hunmarked, st, hst, hlength, hcount, hinline hnone⟩, hmarked, st', hst', hlength',
    hcount'⟩

/-- An operator with a question mark is taken for a placeholder: there seem to be two of them for
one value, and the value is written over the operator. -/
theorem operator_taken_for_placeholder :
    let program : Recipe := ⟨.plain .postgres, [.onTable "t",
      .whereCompare "tags" "?" (.value (.text "x")) .and]⟩
    (program.Compares ∧ program.style.knows "?" = true) ∧
      program.build.compile.toOption.map (fun st => (st.placeholders, st.values.length))
        = some (2, 1) ∧
      program.build.compile.toOption.map (fun st => st.interpolate Value.literal)
        = some "select * from \"t\" where \"tags\" 'x' ?" :=
  ⟨⟨⟨by decide, .cons (.onTable (by decide)) <| .cons (.whereCompare (by decide) rfl) .nil⟩,
    by decide⟩, by decide +kernel, by decide +kernel⟩

end SqlWeave
