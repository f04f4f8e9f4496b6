import SqlWeave.Proofs.Correspondence.Select
import SqlWeave.Proofs.WellFormed
import SqlWeave.Sql.Write

/-!
# When a statement can be written

A refusal may come from any depth of a query, but not every query inside of it is written: a
function over the rows takes the place of the columns, a group and a join give nothing but their
predicates, and a change to a table has no columns, groups or united statements.

* `Query.subqueries` — the queries that a select writes as selects of their own.
* `Query.Selectable` — **the specification** of a select: it has a table, and so have the queries
  that it writes, at any depth.
* `Query.Complete` — what a statement of each kind needs beside its table.
* `Style.selectText_succeeds_iff` — the recursion, for every style.
* `compile_succeeds_iff` — the statement for callers.
-/

namespace SqlWeave

/-! ## The specification -/

mutual

/-- The queries that a predicate writes as selects.  A group writes those of its predicates. -/
def Predicate.subqueries : Predicate → List Query
  | .isInSub _ query _ _ | .compareSub _ _ query _ | .exists query _ _ => [query]
  | .nested ⟨_, _, _, _, _, _, _, predicates, _, _, _, _, _, _, _, _, _, _, _, _, _, _, _⟩ _ =>
    Predicate.allSubqueries predicates
  | .compare _ _ _ _ | .raw _ _ | .isIn _ _ _ _ | .isNull _ _ _ | .between _ _ _ _ _
  | .columns _ _ _ _ => []

/-- The queries that predicates write as selects. -/
def Predicate.allSubqueries : List Predicate → List Query
  | [] => []
  | p :: ps => p.subqueries ++ Predicate.allSubqueries ps

end

namespace Query

/-- The queries in the selected columns, unless a function over the rows takes their place.  A
function over the rows of a union leaves the columns to its first statement. -/
def columnSubqueries (q : Query) : List Query :=
  if q.aggregate.isSome ∧ q.arms = [] then []
  else (q.columns.getD []).filterMap Column.query?

/-- The queries in the joins and predicates. -/
def filterSubqueries (q : Query) : List Query :=
  q.joins.flatMap (fun j => Predicate.allSubqueries j.query.predicates)
    ++ Predicate.allSubqueries q.predicates

/-- The queries that a select writes as selects of their own. -/
def subqueries (q : Query) : List Query :=
  q.columnSubqueries ++ q.filterSubqueries ++ q.groups.filterMap Column.query?
    ++ q.arms.map (·.query)

/-- **A select that can be written**: it has a table, and the queries that it writes can be written
as selects themselves, whatever kind they are of. -/
inductive Selectable : Query → Prop
  | intro (q : Query) (table : q.table ≠ none) (subqueries : ∀ sub ∈ q.subqueries, Selectable sub) :
    Selectable q

/-- What a statement needs beside its table. -/
def Complete (q : Query) : Prop :=
  match q.kind with
  | .select => q.Selectable
  | .insert => q.inserted.columns ≠ [] ∧ q.inserted.rows ≠ [] ∧
      ∀ row ∈ q.inserted.rows, row.length = q.inserted.columns.length
  | .update => q.assignments ≠ [] ∧ ∀ sub ∈ q.filterSubqueries, sub.Selectable
  | .delete => (∀ sub ∈ q.filterSubqueries, sub.Selectable) ∧
      (q.joins = [] ∨ q.style.dialect = .mysql ∨ q.style.dialect = .sqlServer)

/-- One layer of the specification opened: the form in which the recursion over the texts meets
it. -/
lemma selectable_iff (q : Query) :
    q.Selectable ↔ q.table ≠ none ∧ ∀ sub ∈ q.subqueries, sub.Selectable := by
  constructor
  · rintro ⟨_, htable, hsub⟩
    exact ⟨htable, hsub⟩
  · rintro ⟨htable, hsub⟩
    exact .intro q htable hsub

end Query

/-! ### What holds of all of them -/

section Subqueries

variable {P : Query → Prop}

lemma Predicate.forall_mem_allSubqueries {ps : List Predicate} :
    (∀ sub ∈ Predicate.allSubqueries ps, P sub) ↔ ∀ p ∈ ps, ∀ sub ∈ p.subqueries, P sub := by
  induction ps with
  | nil => simp [allSubqueries]
  | cons p ps ih => rw [allSubqueries, List.forall_mem_append, ih, List.forall_mem_cons]

/-- Over the columns that hold a query, and vacuously over those that hold none. -/
lemma Column.forall_mem_filterMap {cs : List Column} :
    (∀ sub ∈ cs.filterMap Column.query?, P sub) ↔ ∀ c ∈ cs, ∀ sub ∈ c.query?, P sub := by
  simp only [List.mem_filterMap, forall_exists_index, and_imp, Option.mem_def]
  exact ⟨fun h c hc sub hsub => h sub c hc hsub, fun h sub c hc hsub => h c hc sub hsub⟩

namespace Query

/-- The columns count only where they are written. -/
lemma forall_mem_columnSubqueries (q : Query) : (∀ sub ∈ q.columnSubqueries, P sub) ↔
    (¬ (q.aggregate.isSome ∧ q.arms = []) → ∀ c ∈ q.columns.getD [], ∀ sub ∈ c.query?, P sub) := by
  rw [columnSubqueries]
  split_ifs with h
  · exact iff_of_true (by simp) fun hno => absurd h hno
  · rw [Column.forall_mem_filterMap]
    exact (imp_iff_right h).symm

/-- A join gives no more than its predicates, so both halves are about predicates. -/
lemma forall_mem_filterSubqueries (q : Query) : (∀ sub ∈ q.filterSubqueries, P sub) ↔
    (∀ j ∈ q.joins, ∀ p ∈ j.query.predicates, ∀ sub ∈ p.subqueries, P sub) ∧
      ∀ p ∈ q.predicates, ∀ sub ∈ p.subqueries, P sub := by
  rw [filterSubqueries, List.forall_mem_append, Predicate.forall_mem_allSubqueries,
    List.forall_mem_flatMap]
  simp only [Predicate.forall_mem_allSubqueries]

/-- All four places at once, in the order in which the texts of a select are computed. -/
lemma forall_mem_subqueries (q : Query) : (∀ sub ∈ q.subqueries, P sub) ↔
    (¬ (q.aggregate.isSome ∧ q.arms = []) →
        ∀ c ∈ q.columns.getD [], ∀ sub ∈ c.query?, P sub) ∧
      ((∀ j ∈ q.joins, ∀ p ∈ j.query.predicates, ∀ sub ∈ p.subqueries, P sub) ∧
        ∀ p ∈ q.predicates, ∀ sub ∈ p.subqueries, P sub) ∧
      (∀ c ∈ q.groups, ∀ sub ∈ c.query?, P sub) ∧ ∀ arm ∈ q.arms, P arm.query := by
  rw [subqueries, List.forall_mem_append, List.forall_mem_append, List.forall_mem_append,
    q.forall_mem_columnSubqueries, q.forall_mem_filterSubqueries, Column.forall_mem_filterMap,
    List.forall_mem_map]
  simp only [and_assoc]

end Query

end Subqueries

/-! ## Computations that succeed -/

section Succeed

variable {ε α β : Type}

lemma ok_succeeds (a : α) : ∃ b, (.ok a : Except ε α) = .ok b :=
  ⟨a, rfl⟩

lemma not_error_succeeds (e : ε) : ¬ ∃ b, (.error e : Except ε α) = .ok b := by
  rintro ⟨b, h⟩
  cases h

/-- A change to the result of a computation cannot make it fail. -/
lemma map_succeeds_iff {x : Except ε α} {f : α → β} :
    (∃ b, x.map f = .ok b) ↔ ∃ a, x = .ok a := by
  cases x with
  | error e => exact iff_of_false (not_error_succeeds e) (not_error_succeeds e)
  | ok a => exact iff_of_true (ok_succeeds (f a)) (ok_succeeds a)

/-- Where what follows succeeds or not whatever the result is. -/
lemma bind_succeeds_iff {x : Except ε α} {f : α → Except ε β} {p : Prop}
    (h : ∀ a, (∃ b, f a = .ok b) ↔ p) :
    (∃ b, (x >>= f) = .ok b) ↔ (∃ a, x = .ok a) ∧ p := by
  cases x with
  | error e => exact iff_of_false (not_error_succeeds e) fun hx => not_error_succeeds e hx.1
  | ok a => exact (h a).trans (and_iff_right (ok_succeeds a)).symm

/-- Where what follows always succeeds. -/
lemma bind_ok_succeeds_iff {x : Except ε α} {f : α → Except ε β} (h : ∀ a, ∃ b, f a = .ok b) :
    (∃ b, (x >>= f) = .ok b) ↔ ∃ a, x = .ok a :=
  (bind_succeeds_iff fun a => iff_true_intro (h a)).trans (and_iff_left trivial)

/-- A list of computations stops at the first that fails, so it succeeds if each of them does. -/
lemma mapM_succeeds_iff {f : α → Except ε β} {as : List α} :
    (∃ bs, as.mapM f = .ok bs) ↔ ∀ a ∈ as, ∃ b, f a = .ok b := by
  induction as with
  | nil =>
      rw [List.mapM_nil]
      exact iff_of_true (ok_succeeds []) (by simp)
  | cons a as ih =>
      rw [List.mapM_cons, List.forall_mem_cons, ← ih]
      exact bind_succeeds_iff fun b => map_succeeds_iff

end Succeed

namespace Style

/-! ## The parts of a statement -/

/-- The table is the first thing that any statement asks for. -/
lemma requireTable_succeeds_iff (q : Query) :
    (∃ t, q.requireTable = .ok t) ↔ q.table ≠ none := by
  rw [Query.requireTable]
  cases q.table with
  | none => exact iff_of_false (not_error_succeeds _) fun h => h rfl
  | some t => exact iff_of_true (ok_succeeds t) (Option.some_ne_none t)

/-- The columns are asked for only where they are written. -/
lemma selectHead_succeeds_iff (s : Style) (q : Query) (columns : Except QueryError (List String))
    (a : Option Aggregate) :
    (∃ head, s.selectHead q columns a = .ok head) ↔ (a = none → ∃ texts, columns = .ok texts) := by
  cases a with
  | none => simpa [selectHead] using map_succeeds_iff
  | some a => exact iff_of_true (ok_succeeds _) fun h => by cases h

/-- Where the layout alone could fail: each list of texts has to be there, the columns only if no
function over the rows replaces them and the arms only if there are any. -/
lemma assembleWith_succeeds_iff (s : Style) (q : Query) (t : Table) (a : Option Aggregate)
    (parts : SelectParts) :
    (∃ sql, s.assembleWith q t a parts = .ok sql) ↔
      (a = none → ∃ texts, parts.columns = .ok texts) ∧ (∃ texts, parts.joins = .ok texts) ∧
      (∃ texts, parts.predicates = .ok texts) ∧ (∃ texts, parts.groups = .ok texts) ∧
      (q.arms ≠ [] → ∃ texts, parts.arms = .ok texts) := by
  rw [assembleWith_eq, ← s.selectHead_succeeds_iff q]
  refine bind_succeeds_iff fun head => bind_succeeds_iff fun joins =>
    bind_succeeds_iff fun predicates => bind_succeeds_iff fun groups => map_succeeds_iff.trans ?_
  cases q.arms with
  | nil => exact iff_of_true (ok_succeeds _) fun h => absurd rfl h
  | cons arm arms => simpa using map_succeeds_iff

/-- The same with the table.  A function over the rows of a union wraps a statement that has its
columns. -/
lemma assemble_succeeds_iff (s : Style) (q : Query) (parts : SelectParts) :
    (∃ sql, s.assemble q parts = .ok sql) ↔ q.table ≠ none ∧
      (¬ (q.aggregate.isSome ∧ q.arms = []) → ∃ texts, parts.columns = .ok texts) ∧
      (∃ texts, parts.joins = .ok texts) ∧ (∃ texts, parts.predicates = .ok texts) ∧
      (∃ texts, parts.groups = .ok texts) ∧ (q.arms ≠ [] → ∃ texts, parts.arms = .ok texts) := by
  rw [assemble, ← requireTable_succeeds_iff]
  refine bind_succeeds_iff fun t => ?_
  cases q.aggregate with
  | none => simpa using s.assembleWith_succeeds_iff q t none parts
  | some a =>
      by_cases harms : q.arms = []
      · simpa [harms] using s.assembleWith_succeeds_iff q t (some a) parts
      · simpa [harms, map_succeeds_iff] using s.assembleWith_succeeds_iff q t none parts

/-! ## The recursion -/

mutual

/-- **A select is written exactly if it is selectable**, in every style. -/
theorem selectText_succeeds_iff (s : Style) :
    ∀ q : Query, (∃ sql, s.selectText q = .ok sql) ↔ q.Selectable
  | ⟨_, _, _, columns, _, aggregate, joins, predicates, groups, _, _, _, arms, _, _, _, _, _, _, _,
      _, _, _⟩ => by
      rw [selectText, assemble_succeeds_iff, Query.selectable_iff]
      simp only [selectedTexts_succeeds_iff s columns, joinTexts_succeeds_iff s joins,
        predicateTexts_succeeds_iff s predicates, columnTexts_succeeds_iff s groups,
        armTexts_succeeds_iff s arms, Query.forall_mem_subqueries, and_assoc]
      cases arms with
      | nil => simp
      | cons arm arms => simp

/-- The selected columns. -/
theorem selectedTexts_succeeds_iff (s : Style) :
    ∀ columns : Option (List Column), (∃ texts, s.selectedTexts columns = .ok texts) ↔
      ∀ c ∈ columns.getD [], ∀ sub ∈ c.query?, sub.Selectable
  | none => iff_of_true (ok_succeeds _) (by simp)
  | some columns => columnTexts_succeeds_iff s columns

theorem columnTexts_succeeds_iff (s : Style) :
    ∀ cs : List Column, (∃ texts, s.columnTexts cs = .ok texts) ↔
      ∀ c ∈ cs, ∀ sub ∈ c.query?, sub.Selectable
  | [] => iff_of_true (ok_succeeds []) (by simp)
  | c :: cs => by
      rw [columnTexts, List.forall_mem_cons, ← columnText_succeeds_iff s c,
        ← columnTexts_succeeds_iff s cs]
      exact bind_succeeds_iff fun text => map_succeeds_iff

/-- Only a subquery has anything to write that could fail. -/
theorem columnText_succeeds_iff (s : Style) :
    ∀ c : Column, (∃ text, s.columnText c = .ok text) ↔ ∀ sub ∈ c.query?, sub.Selectable
  | .name _ | .raw _ => iff_of_true (ok_succeeds _) (by simp [Column.query?])
  | .sub query _ => by
      rw [columnText, map_succeeds_iff, selectText_succeeds_iff s query]
      simp [Column.query?]

/-- A join fails with its predicates and for no other reason. -/
theorem joinTexts_succeeds_iff (s : Style) :
    ∀ js : List Join, (∃ texts, s.joinTexts js = .ok texts) ↔
      ∀ j ∈ js, ∀ p ∈ j.query.predicates, ∀ sub ∈ p.subqueries, sub.Selectable
  | [] => iff_of_true (ok_succeeds []) (by simp)
  | ⟨_, _, ⟨_, _, _, _, _, _, _, predicates, _, _, _, _, _, _, _, _, _, _, _, _, _, _, _⟩⟩ :: js => by
      rw [joinTexts, List.forall_mem_cons, ← joinTexts_succeeds_iff s js,
        ← predicateTexts_succeeds_iff s predicates, joinText, ownPredicateTexts]
      exact (bind_succeeds_iff fun text => map_succeeds_iff).trans (and_congr_left' map_succeeds_iff)

theorem predicateTexts_succeeds_iff (s : Style) :
    ∀ ps : List Predicate, (∃ texts, s.predicateTexts ps = .ok texts) ↔
      ∀ p ∈ ps, ∀ sub ∈ p.subqueries, sub.Selectable
  | [] => iff_of_true (ok_succeeds []) (by simp)
  | p :: ps => by
      rw [predicateTexts, List.forall_mem_cons, ← predicateText_succeeds_iff s p,
        ← predicateTexts_succeeds_iff s ps]
      exact bind_succeeds_iff fun text => map_succeeds_iff

/-- Three kinds of predicates write a select, a group writes its predicates, and the others have
their text already. -/
theorem predicateText_succeeds_iff (s : Style) :
    ∀ p : Predicate, (∃ text, s.predicateText p = .ok text) ↔
      ∀ sub ∈ p.subqueries, sub.Selectable
  | .isInSub _ query _ _ | .compareSub _ _ query _ | .exists query _ _ => by
      rw [predicateText, map_succeeds_iff, selectText_succeeds_iff s query]
      simp [Predicate.subqueries]
  | .nested ⟨_, _, _, _, _, _, _, predicates, _, _, _, _, _, _, _, _, _, _, _, _, _, _, _⟩ _ => by
      rw [predicateText, ownPredicateTexts, map_succeeds_iff,
        predicateTexts_succeeds_iff s predicates, Predicate.subqueries,
        Predicate.forall_mem_allSubqueries]
  | .compare _ _ _ _ | .raw _ _ | .isIn _ _ _ _ | .isNull _ _ _ | .between _ _ _ _ _
  | .columns _ _ _ _ => iff_of_true (ok_succeeds _) (by simp [Predicate.subqueries])

theorem armTexts_succeeds_iff (s : Style) :
    ∀ arms : List Arm, (∃ texts, s.armTexts arms = .ok texts) ↔
      ∀ arm ∈ arms, arm.query.Selectable
  | [] => iff_of_true (ok_succeeds []) (by simp)
  | ⟨query, _⟩ :: arms => by
      rw [armTexts, List.forall_mem_cons, ← armTexts_succeeds_iff s arms,
        ← selectText_succeeds_iff s query, armText]
      exact (bind_succeeds_iff fun arm => map_succeeds_iff).trans (and_congr_left' map_succeeds_iff)

end

/-! ## Changes to a table -/

/-- The joins of an update or a delete are those of a select. -/
lemma joinsSql_succeeds_iff (s : Style) (q : Query) : (∃ sql, s.joinsSql q = .ok sql) ↔
    ∀ j ∈ q.joins, ∀ p ∈ j.query.predicates, ∀ sub ∈ p.subqueries, sub.Selectable :=
  map_succeeds_iff.trans (s.joinTexts_succeeds_iff q.joins)

lemma filterSql_succeeds_iff (s : Style) (q : Query) : (∃ sql, s.filterSql q = .ok sql) ↔
    ∀ p ∈ q.predicates, ∀ sub ∈ p.subqueries, sub.Selectable :=
  map_succeeds_iff.trans (s.predicateTexts_succeeds_iff q.predicates)

/-- A row is written if it fills the columns, no more and no less. -/
lemma rowSql_succeeds_iff (columns : ℕ) (row : List Param) :
    (∃ sql, rowSql columns row = .ok sql) ↔ row.length = columns := by
  rw [rowSql]
  split_ifs with h
  · exact iff_of_true ⟨_, rfl⟩ h
  · simp [h]

/-- **An insert** names its table and its columns and has rows, all of the columns' width. -/
lemma insert_succeeds_iff (s : Style) (q : Query) : (∃ st, s.insert q = .ok st) ↔
    q.table ≠ none ∧ q.inserted.columns ≠ [] ∧ q.inserted.rows ≠ [] ∧
      ∀ row ∈ q.inserted.rows, row.length = q.inserted.columns.length := by
  rw [insert, ← requireTable_succeeds_iff]
  refine bind_succeeds_iff fun t => ?_
  simp only []
  split_ifs with hempty
  · refine iff_of_false (not_error_succeeds _) fun ⟨hcolumns, hrows, _⟩ => ?_
    rw [List.isEmpty_iff, List.isEmpty_iff] at hempty
    exact hempty.elim hcolumns hrows
  · rw [List.isEmpty_iff, List.isEmpty_iff, not_or] at hempty
    refine (bind_ok_succeeds_iff fun rows => ok_succeeds _).trans (mapM_succeeds_iff.trans ?_)
    simp only [rowSql_succeeds_iff]
    exact ⟨fun hwidth => ⟨hempty.1, hempty.2, hwidth⟩, fun h => h.2.2⟩

/-- The sequence is added to a statement that is already written. -/
lemma insertReturning_succeeds_iff (s : Style) (q : Query) (sequence : String) :
    (∃ st, s.insertReturning q sequence = .ok st) ↔ ∃ st, s.insert q = .ok st := by
  rw [insertReturning]
  split
  · exact map_succeeds_iff
  · rfl

lemma assignmentList_succeeds_iff (s : Style) (q : Query) :
    (∃ set, s.assignmentList q = .ok set) ↔ q.assignments ≠ [] := by
  rw [assignmentList]
  cases q.assignments with
  | nil => simp
  | cons a as => exact iff_of_true (ok_succeeds _) (List.cons_ne_nil a as)

/-- **An update**: predicates and joins may hold queries, assignments never do. -/
lemma update_succeeds_iff (s : Style) (q : Query) : (∃ st, s.update q = .ok st) ↔
    q.table ≠ none ∧ q.assignments ≠ [] ∧ ∀ sub ∈ q.filterSubqueries, sub.Selectable := by
  rw [update, ← requireTable_succeeds_iff, ← s.assignmentList_succeeds_iff,
    q.forall_mem_filterSubqueries, ← s.joinsSql_succeeds_iff, ← s.filterSql_succeeds_iff]
  refine bind_succeeds_iff fun t => bind_succeeds_iff fun set => bind_succeeds_iff fun joins =>
    bind_ok_succeeds_iff fun filter => ?_
  simp only []
  split_ifs <;> exact ok_succeeds _

/-- With joins: the dialect is looked at before, so only joins and predicates can fail here. -/
lemma deleteJoined_succeeds_iff (s : Style) (q : Query) (t : Table) :
    (∃ st, s.deleteJoined q t = .ok st) ↔ ∀ sub ∈ q.filterSubqueries, sub.Selectable := by
  rw [deleteJoined, q.forall_mem_filterSubqueries, ← s.joinsSql_succeeds_iff,
    ← s.filterSql_succeeds_iff]
  exact bind_succeeds_iff fun joins => bind_ok_succeeds_iff fun filter => ok_succeeds _

/-- Without joins, there is nothing to write but the predicates. -/
lemma deletePlain_succeeds_iff (s : Style) {q : Query} (h : q.joins = []) (t : Table) :
    (∃ st, s.deletePlain q t = .ok st) ↔ ∀ sub ∈ q.filterSubqueries, sub.Selectable := by
  rw [deletePlain, q.forall_mem_filterSubqueries, ← s.filterSql_succeeds_iff]
  refine (bind_ok_succeeds_iff fun filter => ?_).trans (by simp [h])
  simp only []
  split_ifs <;> exact ok_succeeds _

/-- **A delete** with joins is written for two of the dialects, and one without for every
dialect. -/
lemma delete_succeeds_iff (s : Style) (q : Query) : (∃ st, s.delete q = .ok st) ↔
    q.table ≠ none ∧ (∀ sub ∈ q.filterSubqueries, sub.Selectable) ∧
      (q.joins = [] ∨ s.dialect = .mysql ∨ s.dialect = .sqlServer) := by
  rw [delete, ← requireTable_succeeds_iff]
  refine bind_succeeds_iff fun t => ?_
  split_ifs with hjoins hdialect
  · rw [List.isEmpty_iff] at hjoins
    rw [s.deletePlain_succeeds_iff hjoins]
    exact (and_iff_left (Or.inl hjoins)).symm
  · rw [s.deleteJoined_succeeds_iff]
    exact (and_iff_left (Or.inr hdialect)).symm
  · rw [List.isEmpty_iff] at hjoins
    exact iff_of_false (by simp) fun h => h.2.elim hjoins hdialect

end Style

/-! ## The statement -/

/-- What is checked before any text is written is the note of the query itself. -/
lemma Query.validate_succeeds_iff (q : Query) : (∃ u, q.validate = .ok u) ↔ q.error = none := by
  rw [validate]
  cases q.error with
  | none => exact iff_of_true (ok_succeeds ()) rfl
  | some e => exact iff_of_false (not_error_succeeds e) (Option.some_ne_none e)

/-- **A statement can be written exactly if** no call was refused, it has a table, and it has what
its kind needs.  For a select this goes through all depths of the queries that it writes, but only
through these. -/
theorem compile_succeeds_iff (q : Query) :
    (∃ st, q.compile = .ok st) ↔ q.error = none ∧ q.table ≠ none ∧ q.Complete := by
  rw [Query.compile, ← q.validate_succeeds_iff]
  refine bind_succeeds_iff fun u => ?_
  rw [Query.Complete]
  cases q.kind with
  | select =>
      refine map_succeeds_iff.trans ((q.style.selectText_succeeds_iff q).trans ?_)
      exact ⟨fun h => ⟨(q.selectable_iff.mp h).1, h⟩, And.right⟩
  | insert =>
      rw [← q.style.insert_succeeds_iff]
      cases q.sequence with
      | none => rfl
      | some sequence => exact q.style.insertReturning_succeeds_iff q sequence
  | update => exact q.style.update_succeeds_iff q
  | delete => exact q.style.delete_succeeds_iff q

/-- A function over the rows leaves out a column that cannot be written, but the first statement of a
union does not. -/
example :
    let calls : List Call := [.onTable "t", .toAggregate "count" ["*"], .addSub "s" []]
    let count : Recipe := ⟨.plain .ansi, calls⟩
    let united : Recipe := ⟨.plain .ansi, calls ++ [.addArmSub false [.onTable "u"]]⟩
    count.build.toSql = .ok "select count(*) as aggregate from \"t\"" ∧
      united.build.toSql = .error (.noTable .select) := by
  decide +kernel

end SqlWeave
