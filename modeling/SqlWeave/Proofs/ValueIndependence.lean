import SqlWeave.Proofs.ChangeValues
import SqlWeave.Proofs.Correspondence.Run

/-!
# Values do not steer the text

Two programs that make the same calls and differ only in the values that they bind are written as
the same text, and as many values are sent along with it.  Three places look at a value before they
write it: a comparison looks for null and, inside of a document, for a truth value; and one dialect
writes a truth value or a number into the assignment of a place inside of a document.

* `valueBlind` — **the relation of such programs**: operands need only be values in both, except in
  the three places.
* `values_never_steer` — the statement.
* `comparand_of_steady` — the values that the first two places never look for.
-/

namespace SqlWeave

/-! ## Operands -/

/-- Two operands that are both values, or the same text. -/
inductive Param.Alike : Param → Param → Prop
  | value (v v' : Value) : Alike (.value v) (.value v')
  | raw (sql : String) : Alike (.raw sql) (.raw sql)

namespace Param.Alike

variable {p p' : Param}

lemma sql_eq (h : Alike p p') : p.sql = p'.sql := by
  cases h <;> rfl

lemma length_eq (h : Alike p p') : p.value?.toList.length = p'.value?.toList.length := by
  cases h <;> rfl

end Param.Alike

/-! ## Assignments -/

/-- Two operands that are assigned in the same way. -/
def Param.AssignedAlike (s : Style) (column : String) (p p' : Param) : Prop :=
  Alike p p' ∧ (s.dialect = .mysql → Text.hasArrow column = true →
    Style.inlineNumber? p = Style.inlineNumber? p')

lemma Style.assignment_alike {s : Style} {column : String} {p p' : Param}
    (h : Param.AssignedAlike s column p p') :
    (s.assignment column p).1 = (s.assignment column p').1 ∧
      (s.assignment column p).2.length = (s.assignment column p').2.length := by
  obtain ⟨halike, hinline⟩ := h
  unfold assignment
  split
  · next field step path hdialect hpieces =>
      have harrow : Text.hasArrow column = true := by
        rw [Text.hasArrow_iff, hpieces]
        simp
      have hsame := hinline hdialect harrow
      simp only [documentAssignment, ← hsame]
      cases inlineNumber? p with
      | some written => exact ⟨rfl, rfl⟩
      | none => exact ⟨by rw [halike.sql_eq], halike.length_eq⟩
  · exact ⟨by rw [plainAssignment, plainAssignment, halike.sql_eq], halike.length_eq⟩

/-! ## The relation -/

/-- **Texts are equal, and there are as many values.**  Nothing is asked of names, operators and
styles, as both programs have the same. -/
def valueBlind : Correspondence where
  text t vs t' vs' := t = t' ∧ vs.length = vs'.length
  values vs vs' := vs.length = vs'.length
  name _ := True
  style _ := True
  operator _ := True
  operand := Param.Alike
  assigned := Param.AssignedAlike
  loose := True
  text_append := by
    rintro t vs t' vs' u ws u' ws' ⟨rfl, hvs⟩ ⟨rfl, hws⟩
    exact ⟨rfl, by rw [List.length_append, List.length_append, hvs, hws]⟩
  text_trim := by
    rintro t vs t' vs' ⟨rfl, hvs⟩
    exact ⟨rfl, hvs⟩
  text_eq_empty := by
    rintro t vs t' vs' ⟨rfl, -⟩
    exact Iff.rfl
  text_loose := fun _ h hws => ⟨h.1, hws⟩
  values_nil := rfl
  values_eq_nil := fun h => List.eq_nil_of_length_eq_zero h.symm
  values_append := fun hvs hws => by rw [List.length_append, List.length_append, hvs, hws]
  values_of_text := fun h => h.2
  text_of_neat := fun _ => ⟨rfl, rfl⟩
  name_of_neat := fun _ => trivial
  text_table := fun _ _ => ⟨rfl, rfl⟩
  text_tableAlias := fun _ _ => ⟨rfl, rfl⟩
  text_segment := fun _ _ => ⟨rfl, rfl⟩
  text_column := fun _ _ => ⟨rfl, rfl⟩
  text_lower := fun _ _ => ⟨rfl, rfl⟩
  text_of_operand := fun h => ⟨h.sql_eq, h.length_eq⟩
  text_of_assigned := fun _ _ h => Style.assignment_alike h

/-! ## Values that no comparison looks for -/

/-- A value that a comparison with a column does not look for: not null, and no truth value where
the column is a place inside of a document. -/
def Value.Steady (column : String) : Value → Prop
  | .null => False
  | .bool _ => Text.hasArrow column = false
  | _ => True

lemma Value.Steady.not_isNull {column : String} {v : Value} (h : v.Steady column) :
    (Param.value v).isNull = false := by
  cases v with
  | null => cases h
  | _ => rfl

lemma Value.Steady.operandFor {column : String} {v : Value} (h : v.Steady column) :
    Query.operandFor column (.value v) = .value v := by
  cases v with
  | bool b =>
      rw [Query.operandFor, if_neg]
      rw [show Text.hasArrow column = false from h]
      exact Bool.false_ne_true
  | _ => rfl

/-- Any two such values may be compared with the column. -/
lemma comparand_of_steady {column : String} {v v' : Value} (h : v.Steady column)
    (h' : v'.Steady column) : valueBlind.Comparand column (.value v) (.value v') := by
  refine ⟨by rw [h.not_isNull, h'.not_isNull], fun _ => ?_⟩
  rw [h.operandFor, h'.operandFor]
  exact .value v v'

/-! ## The statement -/

/-- **Values do not steer the text.**  Two programs that differ only in values are both refused for
the same cause, or both are written: as one text, with equally many values. -/
theorem values_never_steer {r r' : Recipe} (h : valueBlind.RecipeMatch r r') :
    Outcome (fun a b => a.sql = b.sql ∧ a.values.length = b.values.length) r.build.compile
      r'.build.compile :=
  h.outcome_compile trivial (Or.inl trivial) fun _ => .value _ _

/-- Texts with quotes and question marks in them, bound by a comparison, in place of an operator,
inside of a subquery and to a place inside of a document, are written as any other texts are. -/
theorem values_never_steer_hostile_texts :
    let program (a b c d : String) : Recipe := ⟨.plain .mysql, [.onTable "t",
      .whereEq "k" (.value (.text a)) .and, .whereCompare "l" b (.value .null) .or,
      .whereInSub "m" [.onTable "u", .select [.name "n"], .whereEq "o->p" (.value (.text c)) .and]
        false .and,
      .setAssignments [("q->r", .value (.text d))]]⟩
    let hostile := program "' or 1 = 1 --" "?" "'?'" "', null) --"
    let harmless := program "a" "b" "c" "d"
    Outcome (fun a b => a.sql = b.sql ∧ a.values.length = b.values.length) hostile.build.compile
        harmless.build.compile ∧
      hostile.build.compile.toOption.map (fun st => (st.sql, st.values.length))
        = some ("update `t` set `q` = json_set(`q`, '$.\"r\"', ?) where `k` = ? or `l` = ? "
          ++ "and `m` in (select `n` from `u` where `o`->'$.\"p\"' = ?)", 4) := by
  have hword : ∀ o, (Style.plain .mysql).knows o = false → valueBlind.ComparisonMatch
      (valueBlind.Comparand "l") ((Style.plain .mysql).comparison o (.value .null))
      ((Style.plain .mysql).comparison "b" (.value .null)) := by
    intro o ho
    have hb : (Style.plain .mysql).knows "b" = false := by decide +kernel
    rw [Style.comparison, Style.comparison, ho, hb]
    exact ⟨rfl, trivial, comparand_of_steady trivial trivial⟩
  refine ⟨values_never_steer (.mk ?_), by decide +kernel⟩
  refine .cons (.onTable trivial) (.cons (.whereEq trivial (comparand_of_steady trivial trivial))
    (.cons (.whereCompare trivial (hword _ (by decide +kernel))) (.cons (.whereInSub trivial ?_)
    (.cons (.setAssignments (.cons ⟨rfl, trivial, .value _ _, fun _ _ => rfl⟩ .nil)) .nil))))
  exact .cons (.onTable trivial) (.cons (.select (.name trivial .nil))
    (.cons (.whereEq trivial (comparand_of_steady trivial trivial)) .nil))

end SqlWeave
