import SqlWeave.Proofs.Correspondence.Steps

/-!
# Corresponding rows

A row is matched to columns by the names of its pairs alone, so two rows that agree in their names
are matched in the same way and the cells correspond.  What both rows lack is null in both.

* `Correspondence.forall₂_cellsOf` — **matching two rows to columns**.
* `Correspondence.QueryMatch.insertRow` — appending them.
-/

namespace SqlWeave

/-! ## Taking a cell out of a row -/

/-- Taking an item out commutes with a function on the items. -/
lemma swapRemove_map {α β : Type} (f : α → β) (items : List α) (i : ℕ) :
    swapRemove (items.map f) i = (swapRemove items i).map f := by
  rw [swapRemove, swapRemove, List.getLast?_map]
  cases items.getLast? with
  | none => rfl
  | some last => simp [List.map_set, List.map_dropLast]

/-- Taking an item out leaves only items of the list. -/
lemma mem_of_mem_swapRemove {α : Type} {items : List α} {i : ℕ} {a : α}
    (h : a ∈ swapRemove items i) : a ∈ items := by
  rw [swapRemove] at h
  cases hlast : items.getLast? with
  | none => simp [hlast] at h
  | some last =>
      simp only [hlast] at h
      rcases List.mem_or_eq_of_mem_set ((List.dropLast_sublist _).subset h) with hmem | rfl
      · exact hmem
      · exact List.mem_of_getLast? hlast

/-- A cell is found by its name, so what else is known of the cells may be kept beside them. -/
lemma takeCell_map {α : Type} (f : α → String × Param) (items : List α) (column : String) :
    takeCell (items.map f) column
      = (items.findIdx? fun a => (f a).1 = column).bind fun i =>
        items[i]?.map fun a => ((f a).2, (swapRemove items i).map f) := by
  rw [takeCell, List.findIdx?_map]
  cases hi : items.findIdx? ((fun pair : String × Param => decide (pair.1 = column)) ∘ f) with
  | none =>
      rw [show items.findIdx? (fun a => decide ((f a).1 = column)) = none from hi]
      rfl
  | some i =>
      rw [show items.findIdx? (fun a => decide ((f a).1 = column)) = some i from hi]
      simp only [Option.bind_some, List.getElem?_map, Option.map_map, swapRemove_map]
      rfl

namespace Correspondence

variable {C : Correspondence} {s : Style} {whole : Bool} {q q' : Query}

/-- Two rows with the same names, as one list. -/
lemma exists_row {pairs pairs' : List (String × Param)}
    (h : List.Forall₂ (C.PairMatch fun _ => C.operand) pairs pairs') :
    ∃ row : List (String × Param × Param), pairs = row.map (fun a => (a.1, a.2.1)) ∧
      pairs' = row.map (fun a => (a.1, a.2.2)) ∧
      ∀ a ∈ row, C.name a.1 ∧ C.operand a.2.1 a.2.2 := by
  induction h with
  | nil => exact ⟨[], rfl, rfl, by simp⟩
  | @cons pair pair' pairs pairs' hpair _ ih =>
      obtain ⟨row, rfl, rfl, hrow⟩ := ih
      obtain ⟨column, p⟩ := pair
      obtain ⟨column', p'⟩ := pair'
      obtain ⟨hsame, hcolumn, hoperand⟩ := hpair
      simp only at hsame
      subst hsame
      exact ⟨(column, p, p') :: row, rfl, rfl, List.forall_mem_cons.mpr ⟨⟨hcolumn, hoperand⟩, hrow⟩⟩

/-- Two rows with the same names are matched to columns in the same way. -/
lemma forall₂_cellsOf (hnull : C.operand (.value .null) (.value .null)) (columns : List String)
    {row : List (String × Param × Param)} (hrow : ∀ a ∈ row, C.operand a.2.1 a.2.2) :
    List.Forall₂ C.operand (cellsOf columns (row.map fun a => (a.1, a.2.1)))
      (cellsOf columns (row.map fun a => (a.1, a.2.2))) := by
  induction columns generalizing row with
  | nil => exact List.Forall₂.nil
  | cons column columns ih =>
      rw [cellsOf, cellsOf, takeCell_map, takeCell_map]
      cases hi : row.findIdx? fun a => decide (a.1 = column) with
      | none => exact List.Forall₂.cons hnull (ih hrow)
      | some i =>
          rw [Option.bind_some, Option.bind_some]
          cases ha : row[i]? with
          | none => exact List.Forall₂.cons hnull (ih hrow)
          | some a =>
              refine List.Forall₂.cons (hrow a (List.mem_of_getElem? ha)) (ih fun b hb => ?_)
              exact hrow b (mem_of_mem_swapRemove hb)

/-- Pairs that match have the same names. -/
lemma map_fst_eq {R : String → Param → Param → Prop} {pairs pairs' : List (String × Param)}
    (h : List.Forall₂ (C.PairMatch R) pairs pairs') : pairs.map (·.1) = pairs'.map (·.1) := by
  induction h with
  | nil => rfl
  | cons hpair _ ih => rw [List.map_cons, List.map_cons, hpair.1, ih]

namespace QueryMatch

/-! ## Insertions -/

/-- An insertion makes the query one, in both runs. -/
lemma setInsertion (h : C.QueryMatch s whole q q') {i i' : Insertion}
    (hi : C.InsertionMatch i i') : C.QueryMatch s whole (q.setInsertion i) (q'.setInsertion i') :=
  { h with
    frame := congrArg (fun f : Query => { f with kind := .insert }) h.frame
    insertion := hi }

lemma insertColumns (h : C.QueryMatch s whole q q') {columns : List String}
    (hcolumns : ∀ n ∈ columns, C.name n) :
    C.QueryMatch s whole (q.insertColumns columns) (q'.insertColumns columns) :=
  h.setInsertion ⟨rfl, hcolumns, h.insertion.rows⟩

lemma insertValues (h : C.QueryMatch s whole q q') {cells cells' : List Param}
    (hcells : List.Forall₂ C.operand cells cells') :
    C.QueryMatch s whole (q.insertValues cells) (q'.insertValues cells') :=
  h.setInsertion ⟨h.insertion.columns, h.insertion.names, fun hnull =>
    List.rel_append (h.insertion.rows hnull) (List.Forall₂.cons hcells List.Forall₂.nil)⟩

/-- The first row fixes the columns, and a later one is matched to them or refused. -/
lemma insertRow (h : C.QueryMatch s whole q q') {pairs pairs' : List (String × Param)}
    (hpairs : List.Forall₂ (C.PairMatch fun _ => C.operand) pairs pairs') :
    C.QueryMatch s whole (q.insertRow pairs) (q'.insertRow pairs') := by
  obtain ⟨hcolumns, hnames, hrows⟩ := h.insertion
  have hfst := map_fst_eq hpairs
  obtain ⟨row, rfl, rfl, hrow⟩ := exists_row hpairs
  have happend : ∀ {cells cells' : List Param}, (C.operand (.value .null) (.value .null) →
      List.Forall₂ C.operand cells cells') → C.operand (.value .null) (.value .null) →
      List.Forall₂ (List.Forall₂ C.operand) (q.inserted.rows ++ [cells])
        (q'.inserted.rows ++ [cells']) :=
    fun hcells hnull => List.rel_append (hrows hnull)
      (List.Forall₂.cons (hcells hnull) List.Forall₂.nil)
  simp only [Query.insertRow, ← hcolumns]
  split_ifs
  · refine h.setInsertion ⟨hfst, ?_, happend fun _ => ?_⟩
    · intro n hn
      simp only [List.map_map, List.mem_map] at hn
      obtain ⟨a, ha, rfl⟩ := hn
      exact (hrow a ha).1
    · rw [List.map_map, List.map_map, List.forall₂_map_left_iff, List.forall₂_map_right_iff,
        List.forall₂_same]
      exact fun a ha => (hrow a ha).2
  -- Names are the same in both rows, so the same pair is refused, or none is.
  · have hfind : ∀ f : String × Param × Param → String × Param, (∀ a, (f a).1 = a.1) →
        (row.map f).find? (fun pair => !q.inserted.columns.contains pair.1)
          = (row.find? fun a => !q.inserted.columns.contains a.1).map f := by
      intro f hf
      rw [List.find?_map]
      congr 2
      funext a
      simp only [Function.comp, hf]
    rw [hfind _ fun _ => rfl, hfind _ fun _ => rfl]
    cases row.find? fun a => !q.inserted.columns.contains a.1 with
    | some a => exact (h.setInsertion h.insertion).fail _
    | none =>
        exact h.setInsertion ⟨rfl, hnames, happend fun hnull =>
          forall₂_cellsOf hnull _ fun a ha => (hrow a ha).2⟩

/-- A row, and the name of the column whose value is to be reported. -/
lemma insertReturning (h : C.QueryMatch s whole q q') {pairs pairs' : List (String × Param)}
    (hpairs : List.Forall₂ (C.PairMatch fun _ => C.operand) pairs pairs') {sequence : Option String}
    (hsequence : ∀ n ∈ sequence, C.name n) :
    C.QueryMatch s whole (q.insertReturning pairs sequence)
      (q'.insertReturning pairs' sequence) := by
  have hrow := h.insertRow hpairs
  exact { hrow with
    frame := congrArg (fun f : Query => { f with sequence := some (sequence.getD "id") }) hrow.frame
    sequence := by
      intro n hn
      cases hn
      cases sequence with
      | none => exact C.name_of_neat (by decide)
      | some column => exact hsequence column rfl }

/-- Assignments are written as each style has them, so they correspond per style. -/
lemma setAssignments (h : C.QueryMatch s whole q q') {as as' : List (String × Param)}
    (has : List.Forall₂ (C.PairMatch (C.assigned s)) as as') :
    C.QueryMatch s whole (q.setAssignments as) (q'.setAssignments as') :=
  { h with
    frame := congrArg (fun f : Query => { f with kind := .update }) h.frame
    assignments := has }

end QueryMatch

end Correspondence

end SqlWeave
