import SqlWeave.Proofs.Placeholder.Inlining

/-!
# A program and its values written in place

A neat program and the program that writes its values in place make corresponding calls: wherever
the one writes a placeholder and binds a value, the other writes the text of that value.

* `weaving` — **the correspondence**: a text carries its values, and it is the other text once they
  are written in.
* `weaving.recipe_inline` — neat programs correspond to themselves with their values in place.
-/

namespace SqlWeave

open Correspondence

variable {quote : Value → String} {residue : Value → Prop}

/-! ## The correspondence -/

/-- A text that carries its values beside the same text with the values written into it.  The other
text may keep placeholders of its own, for values that no caller gives: those of `residue`. -/
structure Text.Woven (quote : Value → String) (residue : Value → Prop) (t : String)
    (vs : List Value) (t' : String) (vs' : List Value) : Prop where
  carries : Carries t vs
  carries' : Carries t' vs'
  rest : ∀ v ∈ vs', residue v
  fewer : vs'.length ≤ vs.length
  agree : interpolate quote t vs = interpolate quote t' vs'

/-- A text without values is its own partner. -/
lemma Text.Carries.woven {t : String} (h : Carries t []) : Woven quote residue t [] t [] where
  carries := h
  carries' := h
  rest := fun _ hv => absurd hv List.not_mem_nil
  fewer := Nat.zero_le _
  agree := rfl

/-- The text with its values written in, and no values. -/
lemma Text.Carries.woven_interpolate {t : String} {vs : List Value} (h : Carries t vs)
    (hquote : Marking quote) : Woven quote residue t vs (Text.interpolate quote t vs) [] where
  carries := h
  carries' := h.interpolate hquote
  rest := fun _ hv => absurd hv List.not_mem_nil
  fewer := Nat.zero_le _
  agree := (interpolate_nil quote _).symm

/-- **Writing values in.**  Operators have no question mark, and whatever else is written is asked
to be the other text once its values are written in. -/
def weaving (hquote : Marking quote) (residue : Value → Prop) : Correspondence where
  text := Text.Woven quote residue
  values vs vs' := (∀ v ∈ vs', residue v) ∧ vs'.length ≤ vs.length
  name := Text.Neat
  style := Style.Neat
  operator o := '?' ∉ o.toList
  operand p p' := Text.Woven quote residue p.sql p.value?.toList p'.sql p'.value?.toList
  assigned s column p p' := Text.Woven quote residue (s.assignment column p).1
    (s.assignment column p).2 (s.assignment column p').1 (s.assignment column p').2
  loose := False
  text_append := fun h k =>
    { carries := h.carries.append k.carries
      carries' := h.carries'.append k.carries'
      rest := fun v hv => (List.mem_append.mp hv).elim (h.rest v) (k.rest v)
      fewer := by
        rw [List.length_append, List.length_append]
        exact Nat.add_le_add h.fewer k.fewer
      agree := by
        rw [h.carries.interpolate_append, h.carries'.interpolate_append, h.agree, k.agree] }
  text_trim := fun h =>
    { carries := h.carries.trim
      carries' := h.carries'.trim
      rest := h.rest
      fewer := h.fewer
      agree := by
        rw [Text.interpolate_trim hquote, Text.interpolate_trim hquote, h.agree] }
  text_eq_empty := by
    intro t vs t' vs' h
    rw [← Text.interpolate_eq_empty hquote t vs, h.agree, Text.interpolate_eq_empty hquote]
  text_loose := fun h => h.elim
  values_nil := ⟨fun _ hv => absurd hv List.not_mem_nil, Nat.le_refl _⟩
  values_eq_nil := fun h => List.eq_nil_of_length_eq_zero (Nat.le_zero.mp h.2)
  values_append := fun h k =>
    ⟨fun v hv => (List.mem_append.mp hv).elim (h.1 v) (k.1 v), by
      rw [List.length_append, List.length_append]
      exact Nat.add_le_add h.2 k.2⟩
  values_of_text := fun h => ⟨h.rest, h.fewer⟩
  text_of_neat := fun h => h.carries.woven
  name_of_neat := id
  text_table := fun hs h => (Style.neat_table hs h).carries.woven
  text_tableAlias := fun hs h => (Style.neat_tableAlias hs h).carries.woven
  text_segment := fun hs h => (Style.neat_segment hs h).carries.woven
  text_column := fun hs h => (Style.carries_column hs h).woven
  text_lower := fun hknows h => (Dialect.neat_lower_of_knows hknows h).carries.woven
  text_of_operand := id
  text_of_assigned := fun _ _ h => h

/-! ## Operands -/

namespace Param

variable {p : Param} {column : String}

/-- The text of an operand carries the value that is bound for it. -/
lemma carries_of_neat (h : p.neat = true) : Text.Carries p.sql p.value?.toList := by
  cases p with
  | value v => exact Text.carries_sql_value v
  | raw sql => exact of_decide_eq_true h

/-- What a comparison makes of its operand is neat: for a place inside of a document, the words for
the truth values are. -/
lemma neat_operandFor (h : p.neat = true) : (Query.operandFor column p).neat = true := by
  cases p with
  | value v =>
      cases v with
      | bool b =>
          rw [Query.operandFor]
          by_cases harrow : Text.hasArrow column = true
          · rw [if_pos harrow]
            cases b <;> decide
          · rw [if_neg harrow]
            exact h
      | _ => rfl
  | raw sql => exact h

variable (quote : Value → String) (p : Param)

/-- Written in place, an operand is raw text: it is not null, it is not turned into anything else,
and no dialect writes it in its own way. -/
lemma isNull_inline : (p.inline quote).isNull = false := by
  cases p <;> rfl

lemma operandFor_inline (column : String) :
    Query.operandFor column (p.inline quote) = p.inline quote := by
  cases p <;> rfl

lemma inlineNumber?_inline : Style.inlineNumber? (p.inline quote) = none := by
  cases p <;> rfl

end Param

namespace weaving

variable (hquote : Marking quote) {s : Style} {column operator : String} {p : Param}

/-- A single placeholder becomes the text of the value. -/
lemma interpolate_placeholder (quote : Value → String) (v : Value) :
    Text.interpolate quote "?" [v] = quote v := by
  rw [Text.interpolate]
  show String.ofList (Chars.interpolateFrom false [(quote v).toList] ['?']) = quote v
  rw [Chars.interpolateFrom_mark, List.headD_cons, List.tail_cons]
  simp [Chars.interpolateFrom]

/-- An operand corresponds to itself written in place. -/
lemma operand_inline (h : p.neat = true) :
    (weaving hquote residue).operand p (p.inline quote) := by
  cases p with
  | value v =>
      have hwoven : Text.Woven quote residue "?" [v] (Text.interpolate quote "?" [v]) [] :=
        (Text.carries_sql_value v).woven_interpolate hquote
      rwa [interpolate_placeholder] at hwoven
  | raw sql => exact (Text.Carries.woven (of_decide_eq_true h) :)

/-- In a comparison a null is kept, for it is not bound but tested for. -/
lemma comparand_inline (h : p.neat = true) :
    (weaving hquote residue).Comparand column p (p.inlineComparand quote column) := by
  rw [Param.inlineComparand]
  split_ifs with hnull
  · exact ⟨rfl, fun hvalue => absurd (hnull.symm.trans hvalue) Bool.noConfusion⟩
  · refine ⟨?_, fun _ => ?_⟩
    · rw [Param.isNull_inline, Bool.eq_false_iff]
      exact hnull
    · rw [Param.operandFor_inline]
      exact operand_inline hquote (Param.neat_operandFor h)

/-! ## Operators -/

/-- A neat operator that the dialect knows has no question mark. -/
lemma operator_of_neat (h : s.neatOperator operator = true) (hknows : s.knows operator = true) :
    (weaving hquote residue).operator operator := by
  rw [Style.neatOperator, hknows, Bool.not_true, Bool.false_or, Bool.not_eq_true'] at h
  exact fun hmark => Bool.false_ne_true (h.symm.trans (List.contains_iff_mem.mpr hmark))

/-- A comparison and the one with its value in place: the operator is settled first, as an unknown
one takes the place of the operand. -/
lemma comparison_inline {R : Param → Param → Prop} {f : Param → Param}
    (hoperator : s.neatOperator operator = true) (hp : p.neat = true)
    (hf : ∀ {p}, p.neat = true → R p (f p)) :
    (weaving hquote residue).ComparisonMatch R (s.comparison operator p)
      (s.comparison (s.comparison operator p).1 (f (s.comparison operator p).2)) := by
  have hequal : s.knows "=" = true := by
    rw [Style.knows]
    cases s.dialect <;> decide
  by_cases hknows : s.knows operator = true
  · have hcomparison : ∀ p, s.comparison operator p = (operator, p) := by
      intro p
      rw [Style.comparison, if_pos hknows]
    rw [hcomparison, hcomparison]
    exact ⟨rfl, operator_of_neat hquote hoperator hknows, hf hp⟩
  · have hcomparison : s.comparison operator p = ("=", .value (.text operator)) := by
      rw [Style.comparison, if_neg hknows]
    rw [hcomparison, Style.comparison, if_pos hequal]
    exact ⟨rfl, (by decide : '?' ∉ "=".toList), hf rfl⟩

/-! ## Lists of operands -/

lemma operands_inline {ps : List Param} (h : ps.all Param.neat = true) :
    List.Forall₂ (weaving hquote residue).operand ps (ps.map (Param.inline quote)) := by
  rw [List.forall₂_map_right_iff, List.forall₂_same]
  intro p hp
  exact operand_inline hquote (List.all_eq_true.mp h p hp)

lemma pairs_inline {R : String → Param → Param → Prop} {f : String → Param → Param}
    {pairs : List (String × Param)} (h : Param.neatPairs pairs = true)
    (hf : ∀ {column p}, Text.Neat column → p.neat = true → R column p (f column p)) :
    List.Forall₂ ((weaving hquote residue).PairMatch R) pairs
      (pairs.map fun pair => (pair.1, f pair.1 pair.2)) := by
  rw [List.forall₂_map_right_iff, List.forall₂_same]
  intro pair hpair
  have hneat := List.all_eq_true.mp h pair hpair
  rw [Bool.and_eq_true, decide_eq_true_eq] at hneat
  exact ⟨rfl, hneat.1, hf hneat.1 hneat.2⟩

/-! ## Assignments -/

/-- A value for a place inside of a document, if the dialect binds it there. -/
lemma document_inline (hs : s.Neat) {field : String} {path : List String}
    (hfield : Text.Neat field) (hpath : ∀ step ∈ path, Text.Neat step) (hp : p.neat = true)
    (hbinds : (s.documentAssignment field path p).2 ≠ []) :
    (weaving hquote residue).text (s.documentAssignment field path p).1
      (s.documentAssignment field path p).2 (s.documentAssignment field path (p.inline quote)).1
      (s.documentAssignment field path (p.inline quote)).2 := by
  simp only [Style.documentAssignment, Param.inlineNumber?_inline] at hbinds ⊢
  cases hnumber : Style.inlineNumber? p with
  | some written =>
      rw [hnumber] at hbinds
      exact absurd rfl hbinds
  | none =>
      have hcolumn : (weaving hquote residue).Plain (s.column field) :=
        (Style.carries_column hs hfield).woven
      have hpath : (weaving hquote residue).Plain (Style.quotedPath path) :=
        (Style.carries_quotedPath hpath).woven
      have hopened : (weaving hquote residue).Plain (s.column field ++ " = json_set("
          ++ s.column field ++ ", " ++ Style.quotedPath path ++ ", ") :=
        ((((hcolumn.append (plain_neat (by decide))).append hcolumn).append
          (plain_neat (by decide))).append hpath).append (plain_neat (by decide))
      exact text_between hopened (operand_inline hquote hp) (plain_neat (by decide))

/-- What is assigned to a column: some dialects bind it, some write it into the text, and both
correspond. -/
lemma assigned_inline (hs : s.Neat) (hcolumn : Text.Neat column) (hp : p.neat = true) :
    (weaving hquote residue).assigned s column p (s.inlineAssigned quote column p) := by
  have hcarries := Style.carries_assignment hs hcolumn (Param.carries_of_neat hp)
  show Text.Woven quote residue (s.assignment column p).1 (s.assignment column p).2
    (s.assignment column (s.inlineAssigned quote column p)).1
    (s.assignment column (s.inlineAssigned quote column p)).2
  rw [Style.inlineAssigned]
  split_ifs with hbinds
  · rw [List.isEmpty_iff] at hbinds
    rw [hbinds] at hcarries ⊢
    exact hcarries.woven
  · rw [List.isEmpty_iff] at hbinds
    unfold Style.assignment at hbinds ⊢
    split at hbinds
    · next field step path hdialect hpieces =>
        have hparts := Text.neat_arrowPieces hcolumn
        rw [hpieces] at hparts
        obtain ⟨hfield, hpath⟩ := List.forall_mem_cons.mp hparts
        exact document_inline hquote hs hfield hpath hp hbinds
    · have hcolumn : (weaving hquote residue).Plain (s.column column) :=
        (Style.carries_column hs hcolumn).woven
      exact text_plain_append (hcolumn.append (plain_neat (by decide))) (operand_inline hquote hp)

/-! ## Texts -/

/-- The checks of a program are decided, so here they are turned into what the correspondence asks
for. -/
lemma name_decide {n : String} (h : decide (Text.Neat n) = true) :
    (weaving hquote residue).name n :=
  (of_decide_eq_true h : Text.Neat n)

lemma plain_decide {t : String} (h : decide (Text.Carries t []) = true) :
    (weaving hquote residue).Plain t :=
  (of_decide_eq_true h : Text.Carries t []).woven

lemma text_decide {t : String} {vs : List Value} (h : decide (Text.Carries t vs) = true) :
    (weaving hquote residue).text t vs (Text.interpolate quote t vs) [] :=
  (of_decide_eq_true h : Text.Carries t vs).woven_interpolate hquote

end weaving

/-! ## Programs -/

namespace weaving

mutual

/-- A neat call and the same call with its values in place. -/
theorem call_inline {s : Style} (hquote : Marking quote) (hs : s.Neat) :
    ∀ call : Call, call.neat s = true →
      (weaving hquote residue).CallMatch s call (call.inline quote s)
  | .onTable _, h => .onTable (name_decide hquote h)
  | .onRaw _, h => .onRaw (plain_decide hquote h)
  | .select columns, h => .select (selections_inline hquote columns h)
  | .addColumns columns, h => .addColumns (selections_inline hquote columns h)
  | .addRaw _ _, h => .addRaw (text_decide hquote h)
  | .addSub _ calls, h => by
      simp only [Call.neat, Bool.and_eq_true, decide_eq_true_eq] at h
      exact .addSub h.1 (calls_inline hquote hs calls h.2)
  | .makeDistinct, _ => .makeDistinct
  | .onWriter, _ => .onWriter
  | .whereEq _ _ _, h => by
      simp only [Call.neat, Bool.and_eq_true, decide_eq_true_eq] at h
      exact .whereEq h.1 (comparand_inline hquote h.2)
  | .whereCompare _ _ _ _, h => by
      simp only [Call.neat, Bool.and_eq_true, decide_eq_true_eq] at h
      exact .whereCompare h.1.1 (comparison_inline hquote h.1.2 h.2 (comparand_inline hquote))
  | .whereGroup calls _, h => .whereGroup (calls_inline hquote hs calls h)
  | .whereAll _ _, h => .whereAll (pairs_inline hquote h fun _ => comparand_inline hquote)
  | .addGroup recipe _, h => .addGroup (recipe_inline hquote recipe h)
  | .onlyIf _ calls, h => .onlyIf (calls_inline hquote hs calls h)
  | .whereRaw _ _ _, h =>
      .whereRaw (text_decide hquote h)
  | .whereIn _ _ _ _, h => by
      simp only [Call.neat, Bool.and_eq_true, decide_eq_true_eq] at h
      exact .whereIn h.1 (operands_inline hquote h.2)
  | .whereInSub _ calls _ _, h => by
      simp only [Call.neat, Bool.and_eq_true, decide_eq_true_eq] at h
      exact .whereInSub h.1 (calls_inline hquote hs calls h.2)
  | .whereNull _ _ _, h => .whereNull (name_decide hquote h)
  | .whereBetween _ _ _ _ _, h => by
      simp only [Call.neat, Bool.and_eq_true, decide_eq_true_eq] at h
      exact .whereBetween h.1.1 (operand_inline hquote h.1.2) (operand_inline hquote h.2)
  | .whereSub _ _ calls _, h => by
      simp only [Call.neat, Bool.and_eq_true, decide_eq_true_eq] at h
      exact .whereSub h.1.1 (operator_of_neat hquote h.1.2) (calls_inline hquote hs calls h.2)
  | .whereExists calls _ _, h => .whereExists (calls_inline hquote hs calls h)
  | .whereColumns _ _ _ _, h => by
      simp only [Call.neat, Bool.and_eq_true, decide_eq_true_eq] at h
      exact .whereColumns h.1.1 (operator_of_neat hquote h.1.2) h.2
  | .addJoin _ _ calls, h => by
      simp only [Call.neat, Bool.and_eq_true, decide_eq_true_eq] at h
      exact .addJoin h.1 (joinCalls_inline hquote hs calls h.2)
  | .groupBy columns, h => .groupBy (selections_inline hquote columns h)
  | .groupByRaw _, h => .groupByRaw (plain_decide hquote h)
  | .having _ _ _ _, h => by
      simp only [Call.neat, Bool.and_eq_true, decide_eq_true_eq] at h
      exact .having h.1.1 (comparison_inline hquote h.1.2 h.2 (operand_inline hquote))
  | .havingRaw _ _ _, h =>
      .havingRaw (text_decide hquote h)
  | .havingBetween _ _ _, h => by
      simp only [Call.neat, Bool.and_eq_true, decide_eq_true_eq] at h
      exact .havingBetween h.1.1 (operand_inline hquote h.1.2) (operand_inline hquote h.2)
  | .orderBy _ _, h => .orderBy (name_decide hquote h)
  | .orderByText _ _, h => .orderByText (name_decide hquote h)
  | .orderByRaw _ _, h =>
      .orderByRaw (text_decide hquote h)
  | .orderRandomly _, h => .orderRandomly fun _ ht =>
      plain_decide hquote (List.all_eq_true.mp h _ (Option.mem_toList.mpr ht))
  | .setLimit _, _ => .setLimit
  | .setOffset _, _ => .setOffset
  | .forPage _ _, _ => .forPage
  | .setLock .exclusive, _ => .setLock trivial
  | .setLock .shared, _ => .setLock trivial
  | .setLock (.custom _), h => .setLock (plain_decide hquote h)
  | .addArm recipe _, h => .addArm (recipe_inline hquote recipe h)
  | .addArmSub _ calls, h => .addArmSub (calls_inline hquote hs calls h)
  | .insertRow _, h => .insertRow (pairs_inline hquote h fun _ => operand_inline hquote)
  | .insertColumns _, h => .insertColumns fun n hn =>
      name_decide hquote (List.all_eq_true.mp h n hn)
  | .insertValues _, h => .insertValues (operands_inline hquote h)
  | .insertReturning _ _, h => by
      simp only [Call.neat, Bool.and_eq_true, List.all_eq_true, decide_eq_true_eq,
        Option.mem_toList] at h
      exact .insertReturning (pairs_inline hquote h.1 fun _ => operand_inline hquote) h.2
  | .setAssignments _, h =>
      .setAssignments (pairs_inline hquote h fun hcolumn hp => assigned_inline hquote hs hcolumn hp)
  | .makeDelete, _ => .makeDelete
  | .toAggregate _ _, h => by
      simp only [Call.neat, Bool.and_eq_true, List.all_eq_true, decide_eq_true_eq] at h
      exact .toAggregate ⟨h.1.woven, h.2⟩
  | .toFresh, _ => .toFresh

theorem calls_inline {s : Style} (hquote : Marking quote) (hs : s.Neat) :
    ∀ calls : List Call, Call.neatAll s calls = true →
      (weaving hquote residue).CallsMatch s calls (Call.inlineAll quote s calls)
  | [], _ => .nil
  | call :: calls, h => by
      rw [Call.neatAll, Bool.and_eq_true] at h
      exact .cons (call_inline hquote hs call h.1) (calls_inline hquote hs calls h.2)

theorem joinCall_inline {s : Style} (hquote : Marking quote) (hs : s.Neat) :
    ∀ call : JoinCall, call.neat s = true →
      (weaving hquote residue).JoinCallMatch s call (call.inline quote s)
  | .on _ _ _ _, h => by
      simp only [JoinCall.neat, Bool.and_eq_true, decide_eq_true_eq] at h
      exact .on h.1.1 (operator_of_neat hquote h.1.2) h.2
  | .group calls, h => .group (joinCalls_inline hquote hs calls h)
  | .whereEq _ _ _, h => by
      simp only [JoinCall.neat, Bool.and_eq_true, decide_eq_true_eq] at h
      exact .whereEq h.1 (comparand_inline hquote h.2)
  | .whereCompare _ _ _ _, h => by
      simp only [JoinCall.neat, Bool.and_eq_true, decide_eq_true_eq] at h
      exact .whereCompare h.1.1 (comparison_inline hquote h.1.2 h.2 (comparand_inline hquote))
  | .whereGroup calls _, h => .whereGroup (calls_inline hquote hs calls h)
  | .whereAll _ _, h => .whereAll (pairs_inline hquote h fun _ => comparand_inline hquote)
  | .whereNull _ _, h => .whereNull (name_decide hquote h)
  | .whereIn _ _, h => by
      simp only [JoinCall.neat, Bool.and_eq_true, decide_eq_true_eq] at h
      exact .whereIn h.1 (operands_inline hquote h.2)
  | .whereRaw _ _, h =>
      .whereRaw (text_decide hquote h)

theorem joinCalls_inline {s : Style} (hquote : Marking quote) (hs : s.Neat) :
    ∀ calls : List JoinCall, JoinCall.neatAll s calls = true →
      (weaving hquote residue).JoinCallsMatch s calls (JoinCall.inlineAll quote s calls)
  | [], _ => .nil
  | call :: calls, h => by
      rw [JoinCall.neatAll, Bool.and_eq_true] at h
      exact .cons (joinCall_inline hquote hs call h.1) (joinCalls_inline hquote hs calls h.2)

/-- Selected columns; a subquery among them is a program of its own. -/
theorem selections_inline (hquote : Marking quote) :
    ∀ columns : List Selection, Selection.neatAll columns = true →
      (weaving hquote residue).SelectionsMatch columns (Selection.inlineAll quote columns)
  | [], _ => .nil
  | .name _ :: columns, h => by
      simp only [Selection.neatAll, Bool.and_eq_true, decide_eq_true_eq] at h
      exact .name h.1 (selections_inline hquote columns h.2)
  | .raw _ :: columns, h => by
      simp only [Selection.neatAll, Bool.and_eq_true, decide_eq_true_eq] at h
      exact .raw h.1.woven (selections_inline hquote columns h.2)
  | .sub recipe _ :: columns, h => by
      simp only [Selection.neatAll, Bool.and_eq_true, decide_eq_true_eq] at h
      exact .sub (recipe_inline hquote recipe h.1.1) h.1.2 (selections_inline hquote columns h.2)

/-- **A neat program and the same program with its values in place.** -/
theorem recipe_inline (hquote : Marking quote) : ∀ r : Recipe, r.neat = true →
    (weaving hquote residue).RecipeMatch r (r.inline quote)
  | ⟨_, calls⟩, h => by
      simp only [Recipe.neat, Bool.and_eq_true, decide_eq_true_eq] at h
      exact .mk (calls_inline hquote h.1 calls h.2)

end

end weaving

end SqlWeave
