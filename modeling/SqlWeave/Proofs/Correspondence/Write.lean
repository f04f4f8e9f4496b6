import SqlWeave.Proofs.Correspondence.Select
import SqlWeave.Sql.Write

/-!
# Corresponding statements

What corresponding queries are written as, whatever kind of statement they are.  An insertion is
asked for more than the others, as its rows may have been filled up with null.

* `Correspondence.outcome_compile` — **the finished statements correspond**, each text with the
  values that are sent along with it.
-/

namespace SqlWeave

namespace Correspondence

variable {C : Correspondence} {s : Style} {vs vs' ws ws' : List Value}

/-- Two finished statements. -/
def StatementMatch (C : Correspondence) (a b : Statement) : Prop :=
  C.text a.sql a.values b.sql b.values

/-! ## Rows and assignments -/

/-- A row in parentheses, if it has as many cells as there are columns; else both runs are
refused. -/
lemma outcome_rowSql (n : ℕ) {row row' : List Param} (h : List.Forall₂ C.operand row row') :
    Outcome (fun t t' => C.text t (Param.values row) t' (Param.values row'))
      (Style.rowSql n row) (Style.rowSql n row') := by
  rw [Style.rowSql, Style.rowSql, ← h.length_eq]
  split_ifs
  · exact Outcome.ok (text_between (plain_neat (by decide)) (text_listSql h)
      (plain_neat (by decide)))
  · exact Outcome.error _

/-- Several rows, each with the values of its cells. -/
lemma outcome_rows (n : ℕ) {rows rows' : List (List Param)}
    (h : List.Forall₂ (List.Forall₂ C.operand) rows rows') :
    Outcome (fun ts ts' => C.Parts C.text ts (rows.flatMap Param.values) ts'
      (rows'.flatMap Param.values)) (rows.mapM (Style.rowSql n)) (rows'.mapM (Style.rowSql n)) := by
  induction h with
  | nil => exact Outcome.ok Parts.nil
  | cons h _ ih =>
      rw [List.mapM_cons, List.mapM_cons]
      refine (outcome_rowSql n h).bind fun ht => ih.bind fun hts => ?_
      exact Outcome.ok (Parts.cons ht hts)

/-- Assignments bring their own values: some dialects write an operand into the text in place of a
placeholder. -/
lemma parts_assignments (hs : C.style s) {as as' : List (String × Param)}
    (h : List.Forall₂ (C.PairMatch (C.assigned s)) as as') :
    C.Parts C.text ((as.map fun a => s.assignment a.1 a.2).map (·.1))
      ((as.map fun a => s.assignment a.1 a.2).flatMap (·.2))
      ((as'.map fun a => s.assignment a.1 a.2).map (·.1))
      ((as'.map fun a => s.assignment a.1 a.2).flatMap (·.2)) := by
  induction h with
  | nil => exact Parts.nil
  | @cons a a' as as' h _ ih =>
      obtain ⟨column, p⟩ := a
      obtain ⟨column', p'⟩ := a'
      obtain ⟨hcolumn, hname, hassigned⟩ := h
      simp only at hcolumn
      subst hcolumn
      exact Parts.cons (C.text_of_assigned hs hname hassigned) ih

namespace QueryMatch

variable {r : Style} {whole : Bool} {q q' : Query}

/-- The list behind `set`, which must not be empty. -/
lemma outcome_assignmentList (h : C.QueryMatch s whole q q') (hs : C.style s) :
    Outcome (fun a a' => C.text a.1 a.2 a'.1 a'.2) (s.assignmentList q) (s.assignmentList q') := by
  have hlength := h.assignments.length_eq
  have hempty : q'.assignments.isEmpty = q.assignments.isEmpty := by
    rw [Bool.eq_iff_iff, List.isEmpty_iff_length_eq_zero, List.isEmpty_iff_length_eq_zero, hlength]
  rw [Style.assignmentList, Style.assignmentList, hempty]
  split_ifs
  · exact Outcome.error _
  · exact Outcome.ok ((parts_assignments hs h.assignments).intercalate (plain_neat (by decide)))

/-- The joins of a change, with the values of the joins. -/
lemma outcome_joinsSql (h : C.QueryMatch r whole q q') (hs : C.style s) :
    Outcome (fun t t' => C.text t q.bindings.join t' q'.bindings.join) (s.joinsSql q)
      (s.joinsSql q') := by
  rw [Style.joinsSql, Style.joinsSql, Style.joinTexts_eq, Style.joinTexts_eq]
  exact (h.joins.mapM hs).map fun hts => hts.intercalate (plain_neat (by decide))

/-- The predicates of a change, with the values of the predicates. -/
lemma outcome_filterSql (h : C.QueryMatch r whole q q') (hs : C.style s) :
    Outcome (fun t t' => C.text t q.bindings.filter t' q'.bindings.filter) (s.filterSql q)
      (s.filterSql q') := by
  rw [Style.filterSql, Style.filterSql, Style.predicateTexts_eq, Style.predicateTexts_eq,
    h.isJoin_eq]
  exact (h.predicates.mapM hs).map fun hps => text_predicateSql _ hps

/-- Behind a change only the ordering has values. -/
lemma text_changeTail (h : C.QueryMatch r whole q q') (hs : C.style s) :
    C.text (s.changeTail q) q.bindings.order (s.changeTail q') q'.bindings.order := by
  have hpage : q.page = q'.page := h.same Query.page
  simp only [Style.changeTail, ← hpage]
  exact Parts.phrase_cons_plain (text_ordering hs h.orders _) (List.forall_mem_singleton.mpr
    (plain_neat (neat_limitSql s _)))

/-! ## The three kinds of change -/

/-- **An insertion.**  Cells that are missing are filled in as null, so null has to correspond to
itself. -/
lemma outcome_insert (h : C.QueryMatch r whole q q') (hs : C.style s)
    (hnull : C.operand (.value .null) (.value .null)) :
    Outcome C.StatementMatch (s.insert q) (s.insert q') := by
  obtain ⟨hcolumns, hnames, hrows⟩ := h.insertion
  have hforall := hrows hnull
  have hempty : q'.inserted.rows.isEmpty = q.inserted.rows.isEmpty := by
    rw [Bool.eq_iff_iff, List.isEmpty_iff_length_eq_zero, List.isEmpty_iff_length_eq_zero,
      hforall.length_eq]
  rw [Style.insert, Style.insert]
  refine h.outcome_requireTable.bind fun {t t'} htable => ?_
  obtain ⟨rfl, ht⟩ := htable
  simp only [← hcolumns, hempty]
  split_ifs
  · exact Outcome.error _
  · refine (outcome_rows _ hforall).bind fun hts => Outcome.ok ?_
    have hstart : C.Plain ("insert into " ++ s.tableSql t ++ " ("
        ++ s.columnList q.inserted.columns ++ ") values ") :=
      (((Plain.append (plain_neat (by decide)) (plain_tableSql hs ht)).append
        (plain_neat (by decide))).append (plain_columnList hs hnames)).append
        (plain_neat (by decide))
    exact text_plain_append hstart (hts.intercalate (plain_neat (by decide)))

/-- An insertion that reports a column is that insertion with the column behind it. -/
lemma outcome_insertReturning (h : C.QueryMatch r whole q q') (hs : C.style s)
    (hnull : C.operand (.value .null) (.value .null)) {column : String} (hcolumn : C.name column) :
    Outcome C.StatementMatch (s.insertReturning q column) (s.insertReturning q' column) := by
  rw [Style.insertReturning, Style.insertReturning]
  have hinsert := h.outcome_insert hs hnull
  split
  · refine hinsert.map fun hst => ?_
    exact text_append_plain (text_append_plain hst (plain_neat (by decide)))
      (C.text_column hs hcolumn)
  · exact hinsert

/-- **An update.**  The dialects put the joins before or behind the assignments; in each of
them the values follow the text. -/
lemma outcome_update (h : C.QueryMatch s whole q q') (hs : C.style s) :
    Outcome C.StatementMatch (s.update q) (s.update q') := by
  have hempty := h.joins.isEmpty_eq
  rw [Style.update, Style.update]
  refine h.outcome_requireTable.bind fun {t t'} htable => ?_
  obtain ⟨rfl, ht⟩ := htable
  refine (h.outcome_assignmentList hs).bind fun {set set'} hset => ?_
  refine (h.outcome_joinsSql hs).bind fun {joins joins'} hjoins => ?_
  refine (h.outcome_filterSql hs).bind fun {filter filter'} hfilter => ?_
  have hname := plain_tableSql hs ht
  have hupdate : C.Plain ("update " ++ s.tableSql t) := (plain_neat (by decide)).append hname
  -- The forms of an update: with the dialect's tail, with a separate list of tables, or plain.
  simp only [← hempty]
  split_ifs
  · refine Outcome.ok ?_
    have hparts := (Parts.cons hupdate <| Parts.cons hjoins <|
      Parts.cons (text_plain_append (u := "set ") (plain_neat (by decide)) hset) <|
      Parts.cons hfilter <| Parts.single (h.text_changeTail hs)).phrase
    simpa only [StatementMatch, List.nil_append, List.append_assoc] using hparts
  · refine Outcome.ok ?_
    have hstart : C.Plain ("update " ++ s.tableAlias t ++ " set ") :=
      ((plain_neat (by decide)).append (plain_tableAlias hs ht)).append (plain_neat (by decide))
    have hfrom : C.Plain ("from " ++ s.tableSql t) := (plain_neat (by decide)).append hname
    have hparts := (Parts.cons (text_plain_append hstart hset) <| Parts.cons hfrom <|
      Parts.cons hjoins <| Parts.single hfilter).phrase
    simpa only [StatementMatch, List.nil_append, List.append_assoc] using hparts
  · refine Outcome.ok ?_
    have hstart : C.Plain ("update " ++ s.tableSql t ++ " set ") :=
      hupdate.append (plain_neat (by decide))
    have hparts := (Parts.cons (text_plain_append hstart hset) <| Parts.cons hjoins <|
      Parts.single hfilter).phrase
    simpa only [StatementMatch, List.append_assoc] using hparts

/-- **A deletion**, with or without joins. -/
lemma outcome_delete (h : C.QueryMatch r whole q q') (hs : C.style s) :
    Outcome C.StatementMatch (s.delete q) (s.delete q') := by
  have hempty := h.joins.isEmpty_eq
  rw [Style.delete, Style.delete]
  refine h.outcome_requireTable.bind fun {t t'} htable => ?_
  obtain ⟨rfl, ht⟩ := htable
  have hname := plain_tableSql hs ht
  rw [← hempty]
  split_ifs
  · rw [Style.deletePlain, Style.deletePlain]
    refine (h.outcome_filterSql hs).bind fun {filter filter'} hfilter => ?_
    have hstart : C.Plain ("delete from " ++ s.tableSql t) := (plain_neat (by decide)).append hname
    simp only []
    split_ifs
    · have hparts := (Parts.cons hstart <| Parts.cons hfilter <|
        Parts.single (h.text_changeTail hs)).phrase
      exact Outcome.ok (by simpa only [StatementMatch, List.nil_append] using hparts)
    · have hparts := (Parts.cons hstart <| Parts.single hfilter).phrase
      exact Outcome.ok (by simpa only [StatementMatch, List.nil_append] using hparts)
  · rw [Style.deleteJoined, Style.deleteJoined]
    refine (h.outcome_joinsSql hs).bind fun hjoins => ?_
    refine (h.outcome_filterSql hs).bind fun hfilter => Outcome.ok ?_
    have hstart : C.Plain ("delete " ++ s.tableAlias t ++ " from " ++ s.tableSql t) :=
      (((plain_neat (by decide)).append (plain_tableAlias hs ht)).append
        (plain_neat (by decide))).append hname
    have hparts := (Parts.cons hstart <| Parts.cons hjoins <| Parts.single hfilter).phrase
    simpa only [StatementMatch, List.nil_append] using hparts
  · exact Outcome.error _

/-- **The finished statements of corresponding queries correspond.** -/
theorem outcome_compile (h : C.QueryMatch s whole q q') (hs : C.style s)
    (hwhole : q.kind = .select → whole = true)
    (hnull : q.kind = .insert → C.operand (.value .null) (.value .null)) :
    Outcome C.StatementMatch q.compile q'.compile := by
  have herror : q.error = q'.error := h.same Query.error
  have hkind : q.kind = q'.kind := h.same Query.kind
  have hsequence : q.sequence = q'.sequence := h.same Query.sequence
  rw [Query.compile, Query.compile, h.style, h.style', ← hkind, ← hsequence]
  have hvalidate : Outcome (fun _ _ => True) q.validate q'.validate := by
    rw [Query.validate, Query.validate, ← herror]
    cases q.error with
    | none => exact Outcome.ok trivial
    | some e => exact Outcome.error e
  refine hvalidate.bind fun _ => ?_
  cases hq : q.kind with
  | select =>
      have hmatch := h
      rw [hwhole hq] at hmatch
      exact ((selectMatch hmatch).2 s hs).map fun ht => ht
  | insert =>
      cases hcolumn : q.sequence with
      | none => exact h.outcome_insert hs (hnull hq)
      | some column => exact h.outcome_insertReturning hs (hnull hq) (h.sequence column hcolumn)
  | update => exact h.outcome_update hs
  | delete => exact h.outcome_delete hs

end QueryMatch

end Correspondence

end SqlWeave
