import Mathlib.Data.List.Forall2
import Mathlib.Data.List.Perm.Basic
import SqlWeave.Query.Write

/-!
# Rows matched by name

The first row of an insertion fixes the columns, and every later one is a list of pairs that is
matched to them.  Each column takes its operand out of the pairs, and taking one out moves another
one into its place, so the pairs that are left come in another order each time.  As no two of them
have the same name, that order does not matter.

* `swapRemove_perm`, `takeCell_perm` — **what is left are the other pairs**, in some order.
* `CellFor` — what a row of pairs has for a column.
* `cellsOf_eq_map` — the cells of a row, each by its own name.
* `later_rows_matched_by_name` — the statement.
-/

namespace SqlWeave

/-! ## Taking a pair out -/

/-- **The last item moves into the gap**, so all items but the one in it are left. -/
lemma swapRemove_perm {α : Type} {items : List α} {i : ℕ} (h : i < items.length) :
    (swapRemove items i).Perm (items.eraseIdx i) := by
  have hne : items ≠ [] := List.ne_nil_of_length_pos (by omega)
  obtain ⟨last, hlast⟩ : ∃ last, items.getLast? = some last :=
    ⟨items.getLast hne, List.getLast?_eq_some_getLast hne⟩
  have hend : (items.set i last).getLast? = some last := by
    rw [List.getLast?_eq_getElem?] at hlast ⊢
    rw [List.length_set, List.getElem?_set]
    split_ifs
    · rfl
    · exact hlast
  have hset : items.set i last = swapRemove items i ++ [last] := by
    rw [swapRemove, hlast]
    exact (List.dropLast_append_getLast? last hend).symm
  have hgap := List.set_perm_cons_eraseIdx h last
  rw [hset] at hgap
  exact ((List.perm_append_singleton last _).symm.trans hgap).cons_inv

variable {pairs left : List (String × Param)} {column : String} {operand : Param}

/-- **Taking a cell leaves the other pairs.** -/
lemma takeCell_perm (h : takeCell pairs column = some (operand, left)) :
    pairs.Perm ((column, operand) :: left) := by
  rw [takeCell] at h
  split at h
  · next i hi =>
      obtain ⟨hlength, hname, -⟩ := List.findIdx?_eq_some_iff_getElem.mp hi
      rw [List.getElem?_eq_getElem hlength, Option.map_some, Option.some.injEq,
        Prod.mk.injEq] at h
      obtain ⟨rfl, rfl⟩ := h
      have hpair : pairs[i] = (column, pairs[i].2) := Prod.ext (by simpa using hname) rfl
      rw [← hpair]
      exact ((List.getElem_cons_eraseIdx_perm hlength).symm).trans
        ((swapRemove_perm hlength).symm.cons _)
  · cases h

/-- A column is left without a pair only if no pair has its name. -/
lemma notMem_of_takeCell_eq_none (h : takeCell pairs column = none) :
    column ∉ pairs.map Prod.fst := by
  rw [takeCell] at h
  split at h
  · next i hi =>
      obtain ⟨hlength, -⟩ := List.findIdx?_eq_some_iff_getElem.mp hi
      simp [List.getElem?_eq_getElem hlength] at h
  · next hnone =>
      rintro hmem
      obtain ⟨pair, hpair, rfl⟩ := List.mem_map.mp hmem
      simpa using List.findIdx?_eq_none_iff.mp hnone pair hpair

/-! ## Pairs with different names

An operand is then told by its name alone. -/

/-- The operand that a row pairs with a column, or null. -/
def cellOf (pairs : List (String × Param)) (column : String) : Param :=
  (pairs.lookup column).getD (.value .null)

/-- What a row of pairs has for a column: the operand paired with it, or null where no pair has its
name. -/
def CellFor (pairs : List (String × Param)) (column : String) (cell : Param) : Prop :=
  (column, cell) ∈ pairs ∨ column ∉ pairs.map Prod.fst ∧ cell = .value .null

lemma lookup_cons_of_ne {name : String} (h : column ≠ name) (p : Param)
    (rest : List (String × Param)) : ((name, p) :: rest).lookup column = rest.lookup column := by
  have hbeq : (column == name) = false := by simpa using h
  rw [List.lookup_cons, hbeq]

/-- Where the names are different, looking a column up finds its pair wherever it stands. -/
lemma lookup_eq_some_iff_mem (hnames : (pairs.map Prod.fst).Nodup) :
    pairs.lookup column = some operand ↔ (column, operand) ∈ pairs := by
  induction pairs with
  | nil => simp
  | cons pair rest ih =>
      obtain ⟨name, p⟩ := pair
      obtain ⟨hname, hrest⟩ := List.nodup_cons.mp hnames
      rw [List.mem_cons, Prod.mk.injEq]
      by_cases hcolumn : column = name
      · subst hcolumn
        have hother : (column, operand) ∉ rest := fun hmem =>
          hname (List.mem_map.mpr ⟨_, hmem, rfl⟩)
        simp [hother, eq_comm]
      · rw [lookup_cons_of_ne hcolumn, ih hrest]
        simp only [hcolumn, false_and, false_or]

/-- A look in vain means that no pair has the name. -/
lemma lookup_eq_none_iff_notMem : pairs.lookup column = none ↔ column ∉ pairs.map Prod.fst := by
  rw [List.lookup_eq_none_iff]
  constructor
  · intro h hmem
    obtain ⟨pair, hpair, rfl⟩ := List.mem_map.mp hmem
    simpa using h pair hpair
  · intro h pair hpair
    have hne : column ≠ pair.1 := fun heq => h (List.mem_map.mpr ⟨pair, hpair, heq.symm⟩)
    simpa using hne

/-- What is looked up is what the row has for the column. -/
lemma cellFor_cellOf (hnames : (pairs.map Prod.fst).Nodup) (column : String) :
    CellFor pairs column (cellOf pairs column) := by
  rw [CellFor, cellOf]
  cases hlookup : pairs.lookup column with
  | none => exact Or.inr ⟨lookup_eq_none_iff_notMem.mp hlookup, rfl⟩
  | some p => exact Or.inl ((lookup_eq_some_iff_mem hnames).mp hlookup)

/-- **The order of the pairs does not matter.** -/
lemma cellOf_perm {pairs' : List (String × Param)} (hperm : pairs.Perm pairs')
    (hnames : (pairs.map Prod.fst).Nodup) (column : String) :
    cellOf pairs column = cellOf pairs' column := by
  have hnames' : (pairs'.map Prod.fst).Nodup := (hperm.map Prod.fst).nodup_iff.mp hnames
  have hlookup : pairs.lookup column = pairs'.lookup column := by
    ext operand
    rw [lookup_eq_some_iff_mem hnames, lookup_eq_some_iff_mem hnames', hperm.mem_iff]
  rw [cellOf, cellOf, hlookup]

/-- **Each cell has what the row pairs with its column.**  The columns are different, so what an
earlier one took is none of the pairs that a later one looks for. -/
lemma cellsOf_eq_map {columns : List String} (hcolumns : columns.Nodup)
    (hnames : (pairs.map Prod.fst).Nodup) : cellsOf columns pairs = columns.map (cellOf pairs) := by
  induction columns generalizing pairs with
  | nil => rfl
  | cons column columns ih =>
      obtain ⟨hcolumn, hrest⟩ := List.nodup_cons.mp hcolumns
      rw [cellsOf, List.map_cons]
      cases htake : takeCell pairs column with
      | none =>
          have hnull : cellOf pairs column = .value .null := by
            rw [cellOf, lookup_eq_none_iff_notMem.mpr (notMem_of_takeCell_eq_none htake),
              Option.getD_none]
          rw [hnull]
          exact congrArg _ (ih hrest hnames)
      | some taken =>
          obtain ⟨operand, left⟩ := taken
          have hperm := takeCell_perm htake
          have hnamesPerm := (hperm.map Prod.fst).nodup_iff.mp hnames
          have hleft : (left.map Prod.fst).Nodup := (List.nodup_cons.mp hnamesPerm).2
          have hfirst : cellOf pairs column = operand := by
            rw [cellOf_perm hperm hnames, cellOf, List.lookup_cons_self, Option.getD_some]
          -- A later column has another name, so the pair that is gone was not for it.
          have hlater : columns.map (cellOf left) = columns.map (cellOf pairs) := by
            refine List.map_congr_left fun other hother => ?_
            have hne : other ≠ column := fun h => hcolumn (h ▸ hother)
            rw [cellOf_perm hperm hnames, cellOf, cellOf, lookup_cons_of_ne hne]
          rw [hfirst, ← hlater]
          exact congrArg _ (ih hrest hleft)

namespace Query

variable {q : Query}

/-- Where columns are set there is an insertion. -/
lemma insertion_eq_some (hset : q.inserted.columns ≠ []) : q.insertion = some q.inserted := by
  rw [inserted] at hset ⊢
  cases hinsertion : q.insertion with
  | none =>
      rw [hinsertion] at hset
      exact absurd rfl hset
  | some i => rfl

/-- A row of known names goes into the insertion with its cells in the order of the columns. -/
lemma insertRow_of_known (hset : q.inserted.columns ≠ [])
    (hknown : ∀ name ∈ pairs.map Prod.fst, name ∈ q.inserted.columns) :
    q.insertRow pairs = q.setInsertion
      ⟨q.inserted.columns, q.inserted.rows ++ [cellsOf q.inserted.columns pairs]⟩ := by
  have hnone : pairs.find? (fun pair => !q.inserted.columns.contains pair.1) = none := by
    rw [List.find?_eq_none]
    intro pair hpair
    simpa using hknown pair.1 (List.mem_map_of_mem hpair)
  rw [insertRow]
  simp only [List.isEmpty_iff, hset, if_false, hnone]

/-- One with a new name is refused for a name that is really new, and leaves the insertion as it
is. -/
lemma insertRow_of_unknown (hset : q.inserted.columns ≠ [])
    (hunknown : ∃ name ∈ pairs.map Prod.fst, name ∉ q.inserted.columns) :
    ∃ name ∈ pairs.map Prod.fst, name ∉ q.inserted.columns ∧
      q.insertRow pairs = (q.setInsertion q.inserted).fail (.unknownColumn name) := by
  obtain ⟨name, hname, hnew⟩ := hunknown
  obtain ⟨pair, hpair, rfl⟩ := List.mem_map.mp hname
  obtain ⟨refused, hrefused⟩ : ∃ refused,
      pairs.find? (fun pair => !q.inserted.columns.contains pair.1) = some refused := by
    rw [← Option.isSome_iff_exists, List.find?_isSome]
    exact ⟨pair, hpair, by simpa using hnew⟩
  refine ⟨refused.1, List.mem_map_of_mem (List.mem_of_find?_eq_some hrefused),
    by simpa using List.find?_some hrefused, ?_⟩
  rw [insertRow]
  simp only [List.isEmpty_iff, hset, if_false, hrefused]

end Query

/-! ## The statement -/

/-- **Later rows are matched by name, not by position.**  Where the columns are set and all
different, a row with no name twice has one of two outcomes.  If all its names are columns, one row
is appended, as wide as the columns are, in which each column has what the row pairs with it and null
where the row lacks it; nothing else of the insertion changes, and the order of the pairs does not
matter.  If some name is no column, the insertion stays as it is and such a name is refused, unless
there is a refusal already. -/
theorem later_rows_matched_by_name (q : Query) {pairs : List (String × Param)}
    (hset : q.inserted.columns ≠ []) (hcolumns : q.inserted.columns.Nodup)
    (hnames : (pairs.map Prod.fst).Nodup) :
    let i := q.inserted
    ((∀ name ∈ pairs.map Prod.fst, name ∈ i.columns) →
      (∃ row, row.length = i.columns.length ∧ List.Forall₂ (CellFor pairs) i.columns row ∧
        q.insertRow pairs
          = { q with kind := .insert, insertion := some ⟨i.columns, i.rows ++ [row]⟩ }) ∧
      ∀ pairs', pairs'.Perm pairs → q.insertRow pairs' = q.insertRow pairs) ∧
    ((∃ name ∈ pairs.map Prod.fst, name ∉ i.columns) →
      ∃ name ∈ pairs.map Prod.fst, name ∉ i.columns ∧
        q.insertRow pairs
          = { q with kind := .insert, error := q.error.or (some (.unknownColumn name)) }) := by
  intro i
  refine ⟨fun hknown => ⟨?_, fun pairs' hperm => ?_⟩, fun hunknown => ?_⟩
  · refine ⟨cellsOf i.columns pairs, ?_, ?_, Query.insertRow_of_known hset hknown⟩
    · rw [cellsOf_eq_map hcolumns hnames, List.length_map]
    · rw [cellsOf_eq_map hcolumns hnames, List.forall₂_map_right_iff, List.forall₂_same]
      exact fun column _ => cellFor_cellOf hnames column
  · have hnames' := (hperm.map Prod.fst).nodup_iff.mpr hnames
    have hknown' : ∀ name ∈ pairs'.map Prod.fst, name ∈ i.columns := fun name hname =>
      hknown name ((hperm.map Prod.fst).mem_iff.mp hname)
    have hcells : cellsOf i.columns pairs' = cellsOf i.columns pairs := by
      rw [cellsOf_eq_map hcolumns hnames, cellsOf_eq_map hcolumns hnames']
      exact List.map_congr_left fun column _ => cellOf_perm hperm hnames' column
    rw [Query.insertRow_of_known hset hknown, Query.insertRow_of_known hset hknown', hcells]
  · obtain ⟨name, hname, hnew, hrow⟩ := Query.insertRow_of_unknown hset hunknown
    refine ⟨name, hname, hnew, hrow.trans ?_⟩
    rw [Query.setInsertion, ← Query.insertion_eq_some hset]
    rfl

/-- The last column first, an expression and a column left out; and a row with a name that is no
column. -/
theorem later_rows_matched_by_name_shuffled :
    let first := [Param.value (.int 1), .value (.int 2), .value (.int 3)]
    let q := (Query.empty (.plain .ansi)).insertRow (["a", "b", "c"].zip first)
    let pairs : List (String × Param) := [("c", .value (.int 6)), ("a", .raw "now()")]
    let unknown : List (String × Param) := [("b", .value (.int 5)), ("x", .value (.int 7))]
    q.inserted.columns ≠ [] ∧ q.inserted.columns.Nodup ∧
    (pairs.map Prod.fst).Nodup ∧ (unknown.map Prod.fst).Nodup ∧
    (∀ name ∈ pairs.map Prod.fst, name ∈ q.inserted.columns) ∧
    (∃ name ∈ unknown.map Prod.fst, name ∉ q.inserted.columns) ∧
    pairs.reverse.Perm pairs ∧
    (q.insertRow pairs).insertion = some ⟨["a", "b", "c"],
      [first, [.raw "now()", .value .null, .value (.int 6)]]⟩ ∧
    q.insertRow pairs.reverse = q.insertRow pairs ∧
    (q.insertRow unknown).insertion = q.insertion ∧
    (q.insertRow unknown).error = some (.unknownColumn "x") := by
  intro first q pairs unknown
  have hset : q.inserted.columns ≠ [] := List.cons_ne_nil _ _
  have hcolumns : q.inserted.columns.Nodup := by decide
  have hnames : (pairs.map Prod.fst).Nodup := by decide
  have hunknownNames : (unknown.map Prod.fst).Nodup := by decide
  have hknown : ∀ name ∈ pairs.map Prod.fst, name ∈ q.inserted.columns := by decide
  have hunknown : ∃ name ∈ unknown.map Prod.fst, name ∉ q.inserted.columns := by decide
  have hperm : pairs.reverse.Perm pairs := List.reverse_perm pairs
  obtain ⟨⟨row, -, hcells, hrow⟩, hreversed⟩ :=
    (later_rows_matched_by_name q hset hcolumns hnames).1 hknown
  obtain ⟨name, hname, hnew, hrefused⟩ :=
    (later_rows_matched_by_name q hset hcolumns hunknownNames).2 hunknown
  refine ⟨hset, hcolumns, hnames, hunknownNames, hknown, hunknown, hperm, ?_,
    hreversed _ hperm, by rw [hrefused], ?_⟩
  · have hthree : List.Forall₂ (CellFor pairs) ["a", "b", "c"] row := hcells
    obtain _ | ⟨ha, _ | ⟨hb, _ | ⟨hc, _ | _⟩⟩⟩ := hthree
    simp [CellFor, pairs] at ha hb hc
    subst ha hb hc
    rfl
  · have honly : ∀ name ∈ unknown.map Prod.fst, name ∉ q.inserted.columns → name = "x" := by
      decide
    rw [hrefused, honly name hname hnew]
    rfl

end SqlWeave
