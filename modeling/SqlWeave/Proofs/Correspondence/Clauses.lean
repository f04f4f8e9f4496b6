import SqlWeave.Proofs.Correspondence.Basic
import SqlWeave.Sql.Select

/-!
# Corresponding clauses

What each clause of a statement is written as, in two runs whose clauses have corresponding parts.
One lemma for each way to write one, and none of them looks at how the clause was made.

* `Correspondence.text_predicateList`, `Correspondence.text_groupSql` — predicates behind their
  keyword and in parentheses.
* `Correspondence.PredicateMatch` and the like — **a clause of either run with the values it
  contributes**.
-/

namespace SqlWeave

/-! ## The conjunctions of predicates -/

namespace Text

/-- Predicates as they stand in a list: all but the first behind their conjunctions. -/
def conjoined : List (Conjunction × String) → List String
  | [] => []
  | p :: ps => p.2 :: ps.map fun p => p.1.text ++ " " ++ p.2

/-- A conjunction and the blank behind it are dropped from the front, whatever text follows. -/
lemma stripConjunction_append (c : Conjunction) (t : String) :
    stripConjunction (c.text ++ " " ++ t) = t := by
  rw [← String.toList_inj]
  cases c with
  | and =>
      have hlist : (Conjunction.and.text ++ " " ++ t).toList
          = 'a' :: 'n' :: 'd' :: ' ' :: t.toList := by
        rw [String.toList_append]
        rfl
      have hprefix : "and ".toList.isPrefixOf
          (('a' :: 'n' :: 'd' :: ' ' :: t.toList).map Char.toLower) = true := rfl
      simp only [stripConjunction, hlist, hprefix, if_true, String.toList_ofList]
      rfl
  -- The first word is tried for both conjunctions, so `and` has to be ruled out.
  | or =>
      have hlist : (Conjunction.or.text ++ " " ++ t).toList = 'o' :: 'r' :: ' ' :: t.toList := by
        rw [String.toList_append]
        rfl
      have hother : "and ".toList.isPrefixOf
          (('o' :: 'r' :: ' ' :: t.toList).map Char.toLower) = false := rfl
      have hprefix : "or ".toList.isPrefixOf
          (('o' :: 'r' :: ' ' :: t.toList).map Char.toLower) = true := rfl
      simp only [stripConjunction, hlist, hother, hprefix, if_true, Bool.false_eq_true, if_false,
        String.toList_ofList]
      rfl

/-- The first conjunction is written and dropped again. -/
lemma predicateList_cons (keyword : String) (p : Conjunction × String)
    (ps : List (Conjunction × String)) :
    predicateList keyword (p :: ps) = keyword ++ " " ++ " ".intercalate (conjoined (p :: ps)) := by
  rw [predicateList, if_neg (by simp), List.map_cons, String.intercalate_cons_append,
    stripConjunction_append, conjoined]

end Text

/-- A group is its predicates without any keyword. -/
lemma Style.groupSql_eq (isJoin : Bool) (ps : List (Conjunction × String)) :
    groupSql isJoin ps = "(" ++ " ".intercalate (Text.conjoined ps) ++ ")" := by
  have hdrop : String.ofList ((predicateSql isJoin ps).toList.drop
      ((predicateKeyword isJoin).length + 1)) = " ".intercalate (Text.conjoined ps) := by
    cases ps with
    | nil => cases isJoin <;> rfl
    | cons p ps =>
        rw [predicateSql, Text.predicateList_cons, String.toList_append, String.toList_append,
          ← String.toList_inj, String.toList_ofList]
        cases isJoin <;> rfl
  rw [groupSql, ← hdrop]

namespace Correspondence

variable {C : Correspondence} {s : Style} {vs vs' ws ws' : List Value}

/-- What has neither a quote nor a placeholder in it stands in both runs for itself. -/
lemma plain_neat {t : String} (h : Text.Neat t) : C.Plain t :=
  C.text_of_neat h

/-- The conjunctions are the same in both runs and have no values, so the texts behind them
decide. -/
lemma parts_conjoined {ps ps' : List (Conjunction × String)}
    (h : C.Parts C.labelled ps vs ps' vs') :
    C.Parts C.text (Text.conjoined ps) vs (Text.conjoined ps') vs' := by
  induction h with
  | nil => exact Parts.nil
  | cons h hs _ =>
      refine Parts.cons h.2 (hs.map fun {p _ p' _} hp => ?_)
      obtain ⟨hlabel, htext⟩ := hp
      rw [hlabel]
      refine text_plain_append (Plain.append (plain_neat ?_) (plain_neat (by decide))) htext
      cases p'.1 <;> decide
  | loose hloose _ hw ih => exact Parts.loose hloose ih hw

/-- Predicates behind a keyword. -/
lemma text_predicateList {keyword : String} (hkeyword : C.Plain keyword)
    {ps ps' : List (Conjunction × String)} (h : C.Parts C.labelled ps vs ps' vs') :
    C.text (Text.predicateList keyword ps) vs (Text.predicateList keyword ps') vs' := by
  have hblank : C.Plain " " := plain_neat (by decide)
  have hbody := (parts_conjoined h).intercalate hblank
  cases ps with
  | nil =>
      cases ps' with
      | nil => exact hbody
      | cons _ _ => exact absurd h.length_eq (by simp)
  | cons p ps =>
      cases ps' with
      | nil => exact absurd h.length_eq (by simp)
      | cons p' ps' =>
          rw [Text.predicateList_cons, Text.predicateList_cons]
          exact text_plain_append (hkeyword.append (plain_neat (by decide))) hbody

/-- Predicates behind `where`, or behind `on` in a join. -/
lemma text_predicateSql (isJoin : Bool) {ps ps' : List (Conjunction × String)}
    (h : C.Parts C.labelled ps vs ps' vs') :
    C.text (Style.predicateSql isJoin ps) vs (Style.predicateSql isJoin ps') vs' := by
  refine text_predicateList (plain_neat ?_) h
  cases isJoin <;> decide

/-- Predicates in parentheses. -/
lemma text_groupSql (isJoin : Bool) {ps ps' : List (Conjunction × String)}
    (h : C.Parts C.labelled ps vs ps' vs') :
    C.text (Style.groupSql isJoin ps) vs (Style.groupSql isJoin ps') vs' := by
  rw [Style.groupSql_eq, Style.groupSql_eq]
  exact text_between (plain_neat (by decide))
    ((parts_conjoined h).intercalate (plain_neat (by decide))) (plain_neat (by decide))

end Correspondence

/-! ## How lists of clauses are written -/

namespace Style

/-- A predicate beside its conjunction. -/
def writePredicate (s : Style) (p : Predicate) : Except QueryError (Conjunction × String) :=
  (s.predicateText p).map fun text => (p.conjunction, text)

/-- A predicate on groups beside its conjunction. -/
def showHaving (s : Style) (h : Having) : Conjunction × String :=
  (h.conjunction, s.havingSql h)

/-- The lists of a statement are written by recursion; here each is the list of what its parts are
written as. -/
lemma predicateTexts_eq (s : Style) (ps : List Predicate) :
    s.predicateTexts ps = ps.mapM s.writePredicate := by
  induction ps with
  | nil => rw [predicateTexts, List.mapM_nil]; rfl
  | cons p ps ih =>
      rw [predicateTexts, List.mapM_cons, ih, writePredicate]
      cases s.predicateText p <;> rfl

lemma columnTexts_eq (s : Style) (cs : List Column) : s.columnTexts cs = cs.mapM s.columnText := by
  induction cs with
  | nil => rw [columnTexts, List.mapM_nil]; rfl
  | cons c cs ih => rw [columnTexts, List.mapM_cons, ih]

lemma joinTexts_eq (s : Style) (js : List Join) : s.joinTexts js = js.mapM s.joinText := by
  induction js with
  | nil => rw [joinTexts, List.mapM_nil]; rfl
  | cons j js ih => rw [joinTexts, List.mapM_cons, ih]

lemma armTexts_eq (s : Style) (arms : List Arm) : s.armTexts arms = arms.mapM s.armText := by
  induction arms with
  | nil => rw [armTexts, List.mapM_nil]; rfl
  | cons arm arms ih => rw [armTexts, List.mapM_cons, ih]

lemma ownPredicateTexts_eq (s : Style) (q : Query) :
    s.ownPredicateTexts q = q.predicates.mapM s.writePredicate := by
  rw [← predicateTexts_eq]
  cases q
  rw [ownPredicateTexts]

end Style

namespace Correspondence

variable {C : Correspondence} {s : Style} {vs vs' ws ws' : List Value}

/-- An item that is always written, in corresponding ways under every style. -/
def Shown {α β : Type} (C : Correspondence) (T : β → List Value → β → List Value → Prop)
    (write : Style → α → β) (a : α) (vs : List Value) (a' : α) (vs' : List Value) : Prop :=
  C.values vs vs' ∧ ∀ s, C.style s → T (write s a) vs (write s a') vs'

/-! ## Tables and operands -/

/-- What is asked of a table. -/
def TableOk (C : Correspondence) : Table → Prop
  | .named name => C.name name
  | .raw sql => C.Plain sql

/-- A table corresponds to itself if its name may be written. -/
lemma plain_tableSql (hs : C.style s) {t : Table} (h : C.TableOk t) : C.Plain (s.tableSql t) := by
  cases t with
  | named name => exact C.text_table hs h
  | raw sql => exact h

/-- So does the label by which a change refers to its table. -/
lemma plain_tableAlias (hs : C.style s) {t : Table} (h : C.TableOk t) :
    C.Plain (s.tableAlias t) := by
  cases t with
  | named name => exact C.text_tableAlias hs h
  | raw sql => exact h

lemma plain_columnList (hs : C.style s) {names : List String} (h : ∀ n ∈ names, C.name n) :
    C.Plain (s.columnList names) := by
  refine (Parts.plain fun t ht => ?_).intercalate (plain_neat (by decide))
  obtain ⟨n, hn, rfl⟩ := List.mem_map.mp ht
  exact C.text_column hs (h n hn)

/-- The value that an operand has, if any, is kept. -/
lemma values_of_operand {p p' : Param} (h : C.operand p p') :
    C.values p.value?.toList p'.value?.toList :=
  C.values_of_text (C.text_of_operand h)

/-- A raw operand has no value and an ordinary one has one. -/
lemma values_cons (p : Param) (ps : List Param) :
    Param.values (p :: ps) = p.value?.toList ++ Param.values ps := by
  rw [Param.values, List.filterMap_cons]
  cases p.value? <;> rfl

/-- Several operands with all of their values, in order. -/
lemma parts_operands {ps ps' : List Param} (h : List.Forall₂ C.operand ps ps') :
    C.Parts C.text (ps.map Param.sql) (Param.values ps) (ps'.map Param.sql) (Param.values ps') := by
  induction h with
  | nil => exact Parts.nil
  | cons h _ ih =>
      rw [values_cons, values_cons]
      exact Parts.cons (C.text_of_operand h) ih

/-- Operands with commas between them. -/
lemma text_listSql {ps ps' : List Param} (h : List.Forall₂ C.operand ps ps') :
    C.text (Param.listSql ps) (Param.values ps) (Param.listSql ps') (Param.values ps') :=
  (parts_operands h).intercalate (plain_neat (by decide))

/-! ## Selects inside of clauses -/

/-- Two selects with their values. -/
def SelectMatch (C : Correspondence) : Query → List Value → Query → List Value → Prop :=
  C.Written C.text Style.selectText

/-- A subquery between two texts that have no values of their own, as in parentheses. -/
lemma SelectMatch.between {q q' : Query} (h : C.SelectMatch q vs q' vs') (hs : C.style s)
    {t u : String} (ht : C.Plain t) (hu : C.Plain u) :
    Outcome (fun w w' => C.text w vs w' vs')
      ((s.selectText q).map fun sql => t ++ sql ++ u)
      ((s.selectText q').map fun sql => t ++ sql ++ u) :=
  (h.2 s hs).map fun hsql => text_between ht hsql hu

/-! ## Predicates -/

/-- Two predicates with their values. -/
def PredicateMatch (C : Correspondence) : Predicate → List Value → Predicate → List Value → Prop :=
  C.Written C.labelled Style.writePredicate

/-- **A predicate corresponds** if its values and its conjunction do, and what it is written as does
in each style. -/
lemma predicateMatch {p p' : Predicate} (hvalues : C.values vs vs')
    (hconjunction : p.conjunction = p'.conjunction)
    (htext : ∀ s, C.style s →
      Outcome (fun t t' => C.text t vs t' vs') (s.predicateText p) (s.predicateText p')) :
    C.PredicateMatch p vs p' vs' :=
  ⟨hvalues, fun s hs => (htext s hs).map fun h => ⟨hconjunction, h⟩⟩

/-- A predicate that is always written. -/
lemma predicateMatch_of_text {p p' : Predicate} {write write' : Style → String}
    (hwrite : ∀ s : Style, s.predicateText p = .ok (write s))
    (hwrite' : ∀ s : Style, s.predicateText p' = .ok (write' s))
    (hvalues : C.values vs vs') (hconjunction : p.conjunction = p'.conjunction)
    (htext : ∀ s, C.style s → C.text (write s) vs (write' s) vs') : C.PredicateMatch p vs p' vs' :=
  predicateMatch hvalues hconjunction fun s hs => by
    rw [hwrite, hwrite']
    exact .ok (htext s hs)

variable {column : String} {c : Conjunction}

/-- A column with a word of the dialect behind it. -/
lemma plain_column_word (hs : C.style s) (hcolumn : C.name column) {word : String}
    (hword : Text.Neat word) : C.Plain (s.column column ++ word) :=
  Plain.append (C.text_column hs hcolumn) (plain_neat hword)

/-- A comparison: the value is that of the operand, and there is none for the operator. -/
lemma predicate_compare {operator : String} {p p' : Param} (hcolumn : C.name column)
    (hoperator : C.Plain operator) (hp : C.operand p p') :
    C.PredicateMatch (.compare column operator p c) p.value?.toList (.compare column operator p' c)
      p'.value?.toList :=
  predicateMatch_of_text (fun s => by rw [Style.predicateText])
    (fun s => by rw [Style.predicateText]) (values_of_operand hp) rfl fun s hs =>
    text_plain_append (((plain_column_word hs hcolumn (by decide)).append hoperator).append
      (plain_neat (by decide))) (C.text_of_operand hp)

/-- A raw predicate corresponds if its text does. -/
lemma predicate_raw {sql sql' : String} (h : C.text sql vs sql' vs') :
    C.PredicateMatch (.raw sql c) vs (.raw sql' c) vs' :=
  predicateMatch_of_text (fun s => by rw [Style.predicateText])
    (fun s => by rw [Style.predicateText]) (C.values_of_text h) rfl fun _ _ => h

/-- A list of operands has as many values as operands that are bound; an empty list has a text of
its own. -/
lemma predicate_isIn {ps ps' : List Param} (hcolumn : C.name column) (negated : Bool)
    (h : List.Forall₂ C.operand ps ps') :
    C.PredicateMatch (.isIn column ps negated c) (Param.values ps) (.isIn column ps' negated c)
      (Param.values ps') := by
  have hlist := text_listSql h
  refine predicateMatch_of_text (fun s => by rw [Style.predicateText])
    (fun s => by rw [Style.predicateText]) (C.values_of_text hlist) rfl fun s hs => ?_
  cases h with
  | nil =>
      exact plain_neat (t := if negated then "1 = 1" else "0 = 1") (by cases negated <;> decide)
  | cons _ _ =>
      simp only [List.isEmpty_cons, Bool.false_eq_true, if_false]
      refine text_append_plain (text_plain_append ?_ hlist) (plain_neat (by decide))
      refine (plain_column_word hs hcolumn ?_).append (plain_neat (by decide))
      cases negated <;> decide

/-- A test for null has no value. -/
lemma predicate_isNull (hcolumn : C.name column) (negated : Bool) :
    C.PredicateMatch (.isNull column negated c) [] (.isNull column negated c) [] :=
  predicateMatch_of_text (fun s => by rw [Style.predicateText])
    (fun s => by rw [Style.predicateText]) C.values_nil rfl fun s hs =>
    plain_column_word hs hcolumn (by cases negated <;> decide)

/-- The value of the lower bound comes before that of the upper one, as in the text. -/
lemma predicate_between {low high low' high' : Param} (hcolumn : C.name column) (negated : Bool)
    (hlow : C.operand low low') (hhigh : C.operand high high') :
    C.PredicateMatch (.between column low high negated c)
      (low.value?.toList ++ high.value?.toList) (.between column low' high' negated c)
      (low'.value?.toList ++ high'.value?.toList) := by
  refine predicateMatch_of_text (fun s => by rw [Style.predicateText])
    (fun s => by rw [Style.predicateText])
    (C.values_append (values_of_operand hlow) (values_of_operand hhigh)) rfl fun s hs => ?_
  refine C.text_append (text_append_plain (text_plain_append (plain_column_word hs hcolumn ?_)
    (C.text_of_operand hlow)) (plain_neat (by decide))) (C.text_of_operand hhigh)
  cases negated <;> decide

/-- A comparison of two columns has no value. -/
lemma predicate_columns {first operator second : String} (hfirst : C.name first)
    (hoperator : C.Plain operator) (hsecond : C.name second) :
    C.PredicateMatch (.columns first operator second c) [] (.columns first operator second c) [] :=
  predicateMatch_of_text (fun s => by rw [Style.predicateText])
    (fun s => by rw [Style.predicateText]) C.values_nil rfl fun s hs =>
    (((plain_column_word hs hfirst (by decide)).append hoperator).append
      (plain_neat (by decide))).append (C.text_column hs hsecond)

/-- The values of a subquery are those of its text, so the predicate around it has no others. -/
lemma predicate_isInSub {q q' : Query} (hcolumn : C.name column) (negated : Bool)
    (h : C.SelectMatch q vs q' vs') :
    C.PredicateMatch (.isInSub column q negated c) vs (.isInSub column q' negated c) vs' := by
  refine predicateMatch h.1 rfl fun s hs => ?_
  rw [Style.predicateText, Style.predicateText]
  refine h.between hs ((plain_column_word hs hcolumn ?_).append (plain_neat (by decide)))
    (plain_neat (by decide))
  cases negated <;> decide

/-- A comparison with a subquery: the operator is written as the dialect has it. -/
lemma predicate_compareSub {operator : String} {q q' : Query} (hcolumn : C.name column)
    (hoperator : C.Plain operator) (h : C.SelectMatch q vs q' vs') :
    C.PredicateMatch (.compareSub column operator q c) vs
      (.compareSub column operator q' c) vs' := by
  refine predicateMatch h.1 rfl fun s hs => ?_
  rw [Style.predicateText, Style.predicateText]
  exact h.between hs (((plain_column_word hs hcolumn (by decide)).append hoperator).append
    (plain_neat (by decide))) (plain_neat (by decide))

/-- A subquery that is asked for rows has no column in front of it. -/
lemma predicate_exists {q q' : Query} (negated : Bool) (h : C.SelectMatch q vs q' vs') :
    C.PredicateMatch (.exists q negated c) vs (.exists q' negated c) vs' := by
  refine predicateMatch h.1 rfl fun s hs => ?_
  rw [Style.predicateText, Style.predicateText]
  exact h.between hs (plain_neat (by cases negated <;> decide)) (plain_neat (by decide))

/-- Of a group only its own predicates are written. -/
lemma predicate_nested {q q' : Query} (hjoin : q.isJoin = q'.isJoin)
    (h : C.Parts C.PredicateMatch q.predicates vs q'.predicates vs') :
    C.PredicateMatch (.nested q c) vs (.nested q' c) vs' := by
  refine predicateMatch (h.values fun hp => hp.1) rfl fun s hs => ?_
  rw [Style.predicateText, Style.predicateText, Style.ownPredicateTexts_eq,
    Style.ownPredicateTexts_eq, hjoin]
  exact (h.mapM hs).map fun hps => text_groupSql q'.isJoin hps

/-! ## Columns, joins and united statements -/

/-- Two columns with their values. -/
def ColumnMatch (C : Correspondence) : Column → List Value → Column → List Value → Prop :=
  C.Written C.text Style.columnText

/-- A column that is named has no value. -/
lemma column_name (h : C.name column) : C.ColumnMatch (.name column) [] (.name column) [] :=
  ⟨C.values_nil, fun s hs => by
    rw [Style.columnText]
    exact .ok (C.text_column hs h)⟩

/-- A raw column corresponds if its text does. -/
lemma column_raw {sql sql' : String} (h : C.text sql vs sql' vs') :
    C.ColumnMatch (.raw sql) vs (.raw sql') vs' :=
  ⟨C.values_of_text h, fun s _ => by
    rw [Style.columnText, Style.columnText]
    exact .ok h⟩

/-- A subquery as a column, in parentheses and with its label behind it. -/
lemma column_sub {q q' : Query} {label : String} (h : C.SelectMatch q vs q' vs')
    (hlabel : C.name label) : C.ColumnMatch (.sub q label) vs (.sub q' label) vs' := by
  refine ⟨h.1, fun s hs => ?_⟩
  rw [Style.columnText, Style.columnText]
  have hbetween := h.between hs (plain_neat (t := "(") (by decide))
    (Plain.append (plain_neat (t := ") as ") (by decide)) (C.text_segment hs hlabel))
  simpa only [String.append_assoc] using hbetween

/-- Two joins with their values. -/
def JoinMatch (C : Correspondence) : Join → List Value → Join → List Value → Prop :=
  C.Written C.text Style.joinText

/-- A join is its table and its predicates; all of its values are those of the predicates. -/
lemma joinMatch (kind : JoinKind) {t : Table} {q q' : Query} (ht : C.TableOk t)
    (hjoin : q.isJoin = q'.isJoin)
    (h : C.Parts C.PredicateMatch q.predicates vs q'.predicates vs') :
    C.JoinMatch ⟨kind, t, q⟩ vs ⟨kind, t, q'⟩ vs' := by
  refine ⟨h.values fun hp => hp.1, fun s hs => ?_⟩
  rw [Style.joinText, Style.joinText, Style.ownPredicateTexts_eq, Style.ownPredicateTexts_eq, hjoin]
  refine (h.mapM hs).map fun hps => ?_
  have hkind : C.Plain (kind.text ++ " join") := plain_neat (by cases kind <;> decide)
  exact Parts.phrase (Parts.cons hkind (Parts.cons (plain_tableSql hs ht)
    (Parts.single (text_predicateSql q'.isJoin hps))))

/-- Two united statements with their values. -/
def ArmMatch (C : Correspondence) : Arm → List Value → Arm → List Value → Prop :=
  C.Written C.labelled Style.armText

/-- An arm corresponds if its select does; how it is united is the same in both runs. -/
lemma armMatch {q q' : Query} {all : Bool} (h : C.SelectMatch q vs q' vs') :
    C.ArmMatch ⟨q, all⟩ vs ⟨q', all⟩ vs' :=
  ⟨h.1, fun s hs => by
    rw [Style.armText, Style.armText]
    exact (h.2 s hs).map fun ht => ⟨rfl, ht⟩⟩

/-! ## Predicates on groups and orderings -/

/-- Two predicates on groups with their values. -/
def HavingMatch (C : Correspondence) : Having → List Value → Having → List Value → Prop :=
  C.Shown C.labelled Style.showHaving

lemma having_compare {operator : String} {p p' : Param} (hcolumn : C.name column)
    (hoperator : C.Plain operator) (hp : C.operand p p') :
    C.HavingMatch (.compare column operator p c) p.value?.toList (.compare column operator p' c)
      p'.value?.toList :=
  ⟨values_of_operand hp, fun s hs => ⟨rfl,
    text_plain_append (((plain_column_word hs hcolumn (by decide)).append hoperator).append
      (plain_neat (by decide))) (C.text_of_operand hp)⟩⟩

lemma having_raw {sql sql' : String} (h : C.text sql vs sql' vs') :
    C.HavingMatch (.raw sql c) vs (.raw sql' c) vs' :=
  ⟨C.values_of_text h, fun _ _ => ⟨rfl, h⟩⟩

/-- A range on groups, with the values in the order of the bounds. -/
lemma having_between {low high low' high' : Param} (hcolumn : C.name column)
    (hlow : C.operand low low') (hhigh : C.operand high high') :
    C.HavingMatch (.between column low high c) (low.value?.toList ++ high.value?.toList)
      (.between column low' high' c) (low'.value?.toList ++ high'.value?.toList) :=
  ⟨C.values_append (values_of_operand hlow) (values_of_operand hhigh), fun s hs => ⟨rfl,
    C.text_append (text_append_plain (text_plain_append (plain_column_word hs hcolumn (by decide))
      (C.text_of_operand hlow)) (plain_neat (by decide))) (C.text_of_operand hhigh)⟩⟩

/-- Two terms of an ordering with their values. -/
def OrderMatch (C : Correspondence) : Order → List Value → Order → List Value → Prop :=
  C.Shown C.text Style.orderSql

/-- A column that is ordered by has no value. -/
lemma order_column (h : C.name column) (d : Direction) :
    C.OrderMatch (.column column d) [] (.column column d) [] :=
  ⟨C.values_nil, fun s hs => Plain.append (plain_column_word hs h (by decide))
    (plain_neat (by cases d <;> decide))⟩

lemma order_raw {sql sql' : String} (h : C.text sql vs sql' vs') :
    C.OrderMatch (.raw sql) vs (.raw sql') vs' :=
  ⟨C.values_of_text h, fun _ _ => h⟩

/-- A random order has no value; its seed is written into the text. -/
lemma order_random {seed : Option String} (h : ∀ t ∈ seed, C.Plain t) :
    C.OrderMatch (.random seed) [] (.random seed) [] := by
  refine ⟨C.values_nil, fun s _ => ?_⟩
  have hseed : C.Plain (seed.getD "") := by
    cases seed with
    | none => exact plain_neat Text.neat_empty
    | some t => exact h t rfl
  rw [Style.orderSql, Style.randomSql]
  cases s.dialect with
  | mysql => exact text_between (plain_neat (by decide)) hseed (plain_neat (by decide))
  | sqlServer => exact plain_neat (t := "newid()") (by decide)
  | ansi | postgres | sqlite => exact plain_neat (t := "random()") (by decide)

end Correspondence

end SqlWeave
