import SqlWeave.Proofs.RowMatching
import SqlWeave.Query.Call
import SqlWeave.Sql.Write

/-!
# Rows that name a column twice

The first row of an insertion brings its own columns, one for each pair, and keeps all of them.
Every later row is matched to columns that are there already.  A name that is no column is refused,
but a name that comes more often than its column is not: what finds no column of its own is dropped.

* `Holds` — **the specification**: which pairs the cells of a row have, the other cells being null.
* `exists_holds_cellsOf` — what the cells of a later row hold, and what is left over.
* `Query.KeepsRow` — whether a row was appended that has the operand of every pair.
* `inserted_row_kept_iff` — when that is so.
-/

namespace SqlWeave

/-! ## What a row holds -/

/-- **The pairs that a row has under its columns**, in the order of the columns.  A cell has the
operand of a pair of its column, or it is filled in as null. -/
inductive Holds : List String → List Param → List (String × Param) → Prop
  | nil : Holds [] [] []
  | given {columns : List String} {row : List Param} {held : List (String × Param)}
    (column : String) (operand : Param) (h : Holds columns row held) :
    Holds (column :: columns) (operand :: row) ((column, operand) :: held)
  | missing {columns : List String} {row : List Param} {held : List (String × Param)}
    (column : String) (h : Holds columns row held) :
    Holds (column :: columns) (.value .null :: row) held

variable {columns : List String} {row : List Param} {pairs held lost : List (String × Param)}

/-- Each cell has one pair at most. -/
lemma Holds.sublist (h : Holds columns row held) : (held.map Prod.fst).Sublist columns := by
  induction h with
  | nil => exact List.Sublist.slnil
  | given column operand _ ih => exact ih.cons_cons column
  | missing column _ ih => exact ih.cons column

/-- Under its own columns a row has all pairs. -/
lemma holds_own (pairs : List (String × Param)) :
    Holds (pairs.map Prod.fst) (pairs.map Prod.snd) pairs := by
  induction pairs with
  | nil => exact .nil
  | cons pair pairs ih => exact .given pair.1 pair.2 ih

/-- **What the cells of a row hold**, and what is left over: of each name the pairs that come more
often than the columns do. -/
lemma exists_holds_cellsOf (columns : List String) (pairs : List (String × Param)) :
    ∃ held lost, Holds columns (cellsOf columns pairs) held ∧ (held ++ lost).Perm pairs ∧
      ∀ name, (lost.map Prod.fst).count name
        = (pairs.map Prod.fst).count name - columns.count name := by
  induction columns generalizing pairs with
  | nil => exact ⟨[], pairs, .nil, .refl _, fun name => rfl⟩
  | cons column columns ih =>
      rw [cellsOf]
      cases htake : takeCell pairs column with
      -- No pair has the name, so the cell is null and no pair is used up.
      | none =>
          obtain ⟨held, lost, hholds, hperm, hcount⟩ := ih pairs
          refine ⟨held, lost, hholds.missing column, hperm, fun name => ?_⟩
          have hcolumn : (pairs.map Prod.fst).count column = 0 :=
            List.count_eq_zero.mpr (notMem_of_takeCell_eq_none htake)
          rw [hcount, List.count_cons]
          split_ifs with hname
          · obtain rfl : column = name := by simpa using hname
            rw [hcolumn, Nat.zero_sub, Nat.zero_sub]
          · rfl
      -- One pair is used up, and its name counts once less on both sides.
      | some taken =>
          obtain ⟨operand, left⟩ := taken
          have hpairs := takeCell_perm htake
          obtain ⟨held, lost, hholds, hperm, hcount⟩ := ih left
          refine ⟨(column, operand) :: held, lost, hholds.given column operand,
            (hperm.cons (column, operand)).trans hpairs.symm, fun name => ?_⟩
          have hnames := (hpairs.map Prod.fst).count_eq name
          rw [List.map_cons, List.count_cons] at hnames
          rw [hcount, hnames, List.count_cons]
          split_ifs <;> omega

/-- Nothing is left over exactly where no name comes more often than its column. -/
lemma eq_nil_of_count (hcount : ∀ name, (lost.map Prod.fst).count name = 0) : lost = [] := by
  rw [← List.map_eq_nil_iff (f := Prod.fst), List.eq_nil_iff_forall_not_mem]
  exact fun name => List.count_eq_zero.mp (hcount name)

/-! ## What an insertion keeps -/

namespace Query

variable {q : Query}

/-- **Whether a row was appended that has the operand of every pair** in a cell of its own. -/
def KeepsRow (q : Query) (pairs : List (String × Param)) : Prop :=
  ∃ columns row held,
    (q.insertRow pairs).insertion = some ⟨columns, q.inserted.rows ++ [row]⟩ ∧
      Holds columns row held ∧ held.Perm pairs

lemma insertRow_of_unset (hset : q.inserted.columns = []) :
    q.insertRow pairs = q.setInsertion
      ⟨pairs.map Prod.fst, q.inserted.rows ++ [pairs.map Prod.snd]⟩ := by
  simp only [insertRow, hset, List.isEmpty_nil, if_true]

lemma keepsRow_of_unset (hset : q.inserted.columns = []) : q.KeepsRow pairs :=
  ⟨_, _, pairs, congrArg Query.insertion (insertRow_of_unset hset), holds_own pairs, .refl pairs⟩

/-- A later row keeps all pairs if each has a column of its own. -/
lemma keepsRow_iff_of_known (hset : q.inserted.columns ≠ [])
    (hknown : ∀ name ∈ pairs.map Prod.fst, name ∈ q.inserted.columns) :
    q.KeepsRow pairs ↔
      ∀ name, (pairs.map Prod.fst).count name ≤ q.inserted.columns.count name := by
  have hrow := congrArg Query.insertion (insertRow_of_known hset hknown)
  constructor
  · rintro ⟨columns, row, held, hinsertion, hholds, hperm⟩ name
    have hcolumns : columns = q.inserted.columns :=
      congrArg Insertion.columns (Option.some.inj (hinsertion.symm.trans hrow))
    rw [← (hperm.map Prod.fst).count_eq name, ← hcolumns]
    exact hholds.sublist.count_le name
  · intro hcount
    obtain ⟨held, lost, hholds, hperm, hlost⟩ := exists_holds_cellsOf q.inserted.columns pairs
    have hnone : lost = [] :=
      eq_nil_of_count fun name => (hlost name).trans (Nat.sub_eq_zero_of_le (hcount name))
    rw [hnone, List.append_nil] at hperm
    exact ⟨_, _, held, hrow, hholds, hperm⟩

end Query

/-! ## The statement -/

/-- **When a row keeps every pair.**  A row of pairs is refused or kept whole exactly where there is
a refusal already, or no columns are set, or some name is no column, or no name comes more often
than its column.  In full, an insertion has one of three outcomes.  Without columns, the row brings
them along and has every pair.  With a name that is no column, nothing is appended and such a name
is refused.  Else a row is appended and nothing is refused; its cells hold some of the pairs and
null, and the pairs that are lost are, of each name, those in excess of its columns. -/
theorem inserted_row_kept_iff (q : Query) (pairs : List (String × Param)) :
    let i := q.inserted
    let names := pairs.map Prod.fst
    let q' := q.insertRow pairs
    (q'.error ≠ none ∨ q.KeepsRow pairs ↔
      q.error ≠ none ∨ i.columns = [] ∨ (∃ name ∈ names, name ∉ i.columns) ∨
        ∀ name, names.count name ≤ i.columns.count name) ∧
    ((i.columns = [] ∧ q.KeepsRow pairs ∧ q'
        = { q with kind := .insert,
                   insertion := some ⟨names, i.rows ++ [pairs.map Prod.snd]⟩ }) ∨
      (i.columns ≠ [] ∧ ∃ name ∈ names, name ∉ i.columns ∧ q'
        = { q with kind := .insert, error := q.error.or (some (.unknownColumn name)) }) ∨
      (i.columns ≠ [] ∧ (∀ name ∈ names, name ∈ i.columns) ∧
        ∃ row held lost, q'
          = { q with kind := .insert, insertion := some ⟨i.columns, i.rows ++ [row]⟩ } ∧
          Holds i.columns row held ∧ (held ++ lost).Perm pairs ∧
          ∀ name, (lost.map Prod.fst).count name = names.count name - i.columns.count name)) := by
  intro i names q'
  by_cases hset : i.columns = []
  · have hkeeps : q.KeepsRow pairs := Query.keepsRow_of_unset hset
    exact ⟨iff_of_true (.inr hkeeps) (.inr (.inl hset)),
      .inl ⟨hset, hkeeps, Query.insertRow_of_unset hset⟩⟩
  · by_cases hknown : ∀ name ∈ names, name ∈ i.columns
    · have hrow : q' = _ := Query.insertRow_of_known hset hknown
      have herror : q'.error = q.error := by
        rw [hrow]
        rfl
      have hnone : ¬∃ name ∈ names, name ∉ i.columns := by
        rintro ⟨name, hname, hnew⟩
        exact hnew (hknown name hname)
      refine ⟨?_, .inr (.inr ⟨hset, hknown, ?_⟩)⟩
      · rw [herror, Query.keepsRow_iff_of_known hset hknown]
        simp only [hset, hnone, false_or]
        rfl
      · obtain ⟨held, lost, hholds, hperm, hlost⟩ := exists_holds_cellsOf i.columns pairs
        exact ⟨_, held, lost, hrow, hholds, hperm, hlost⟩
    · have hunknown : ∃ name ∈ names, name ∉ i.columns := by
        simpa only [not_forall, exists_prop] using hknown
      obtain ⟨name, hname, hnew, hrefused⟩ := Query.insertRow_of_unknown hset hunknown
      have hfail : q' = { q with
          kind := .insert
          error := q.error.or (some (.unknownColumn name)) } := by
        refine hrefused.trans ?_
        rw [Query.setInsertion, ← Query.insertion_eq_some hset]
        rfl
      have herror : q'.error ≠ none := by
        rw [hfail]
        simp
      exact ⟨iff_of_true (.inl herror) (.inr (.inr (.inl hunknown))),
        .inr (.inl ⟨hset, name, hname, hnew, hfail⟩)⟩

/-- Two values for one column: nothing is refused, the statement compiles, and the second value is
in no cell and among no bindings. -/
theorem repeated_name_loses_value :
    let q := Recipe.build ⟨.plain .ansi, [.onTable "t", .insertRow [("a", .value (.int 1))]]⟩
    let pairs : List (String × Param) := [("a", .value (.int 2)), ("a", .value (.int 3))]
    let q' := q.insertRow pairs
    q'.error = none ∧ ¬q.KeepsRow pairs ∧
      q'.insertion = some ⟨["a"], [[.value (.int 1)], [.value (.int 2)]]⟩ ∧
      q'.toSql = .ok "insert into \"t\" (\"a\") values (?), (?)" := by
  intro q pairs q'
  refine ⟨rfl, fun hkeeps => ?_, rfl, by decide +kernel⟩
  have hiff : q.KeepsRow pairs ↔ _ :=
    Query.keepsRow_iff_of_known (List.cons_ne_nil _ _) (by decide)
  exact absurd (hiff.mp hkeeps "a") (by decide)

end SqlWeave
