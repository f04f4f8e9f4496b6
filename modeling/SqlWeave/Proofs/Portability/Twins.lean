import SqlWeave.Proofs.Correspondence.Select
import SqlWeave.Proofs.Portability.SharedStyles

/-!
# Queries that are written alike in different styles

The same program, run once in each of two styles, makes two queries that differ only in the styles
that they and the queries inside of them remember.  What counts is what their clauses are written
as, and in styles that write names alike that is the same.

* `Column.Twin`, `Predicate.Twin`, `Join.Twin` — parts that are written alike.
* `Query.Portable` — the clauses of one query, without what a dialect has of its own.
* `Query.Twin` — **the relation** between the two queries.
* `Query.Twin.selectText_eq` — twins are written as the same select.
-/

namespace SqlWeave

variable {p : String}

/-! ## Parts that are written alike -/

/-- Columns that are written alike in all styles with a table prefix. -/
def Column.Twin (p : String) (c c' : Column) : Prop :=
  ∀ {s s' : Style}, s.Shared p → s'.Shared p → s.columnText c = s'.columnText c'

/-- Predicates that are written alike. -/
def Predicate.Twin (p : String) (x x' : Predicate) : Prop :=
  ∀ {s s' : Style}, s.Shared p → s'.Shared p → s.writePredicate x = s'.writePredicate x'

/-- A predicate without anything of a dialect's own is written alike everywhere. -/
lemma Predicate.Portable.twin {x : Predicate} (h : x.Portable) : x.Twin p x := by
  intro s s' hs hs'
  cases x with
  | compare column | isIn column | isNull column | between column =>
      simp only [Style.writePredicate, Style.predicateText, hs.column_eq hs' h]
  | columns first operator second c =>
      simp only [Style.writePredicate, Style.predicateText, hs.column_eq hs' h.1,
        hs.column_eq hs' h.2]
  | raw sql c => rfl
  | isInSub | nested | compareSub | «exists» => exact h.elim

/-- Joins that are written alike. -/
def Join.Twin (p : String) (j j' : Join) : Prop :=
  ∀ {s s' : Style}, s.Shared p → s'.Shared p → s.joinText j = s'.joinText j'

/-- Lists of parts that are written alike one by one are written alike as a whole. -/
lemma mapM_eq_of_forall₂ {α β : Type} {R : α → α → Prop} {write write' : α → Except QueryError β}
    {xs ys : List α} (h : List.Forall₂ R xs ys) (hwrite : ∀ x y, R x y → write x = write' y) :
    xs.mapM write = ys.mapM write' := by
  induction h with
  | nil => rfl
  | cons hxy _ ih => rw [List.mapM_cons, List.mapM_cons, hwrite _ _ hxy, ih]

/-! ## Twins -/

namespace Query

/-- What a query says beside its style and the clauses that may hold queries. -/
def core (q : Query) : Query :=
  { q with
    style := .plain .ansi
    columns := none
    joins := []
    predicates := []
    groups := [] }

/-- A query whose own clauses have nothing of a dialect's own, and whose values belong to its
clauses. -/
structure Portable (q : Query) : Prop where
  havings : ∀ h ∈ q.havings, h.Portable
  orders : ∀ o ∈ q.orders, o.Portable
  aggregate : ∀ a ∈ q.aggregate, ∀ n ∈ a.columns, Text.Flat n
  lock : ∀ l ∈ q.lock, l.Portable
  insertion : ∀ n ∈ q.inserted.columns, Text.Flat n
  assignments : ∀ a ∈ q.assignments, Text.Flat a.1
  arms : q.arms = []
  joinValues : q.joins = [] → q.bindings.join = []
  orderValues : q.orders = [] → q.bindings.order = []

/-- **Two queries that are written alike** in all styles with a table prefix. -/
structure Twin (p : String) (q q' : Query) : Prop where
  portable : q.Portable
  core : q.core = q'.core
  columns_isSome : q.columns.isSome = q'.columns.isSome
  columns : List.Forall₂ (Column.Twin p) (q.columns.getD []) (q'.columns.getD [])
  joins : List.Forall₂ (Join.Twin p) q.joins q'.joins
  predicates : List.Forall₂ (Predicate.Twin p) q.predicates q'.predicates
  groups : List.Forall₂ (Column.Twin p) q.groups q'.groups

namespace Twin

variable {q q' : Query} {s s' : Style}

/-- What twins share is read off their common core, field by field: first the kind of statement. -/
lemma kind_eq (h : q.Twin p q') : q.kind = q'.kind :=
  congrArg (·.kind) h.core

lemma table_eq (h : q.Twin p q') : q.table = q'.table :=
  congrArg (·.table) h.core

lemma distinct_eq (h : q.Twin p q') : q.distinct = q'.distinct :=
  congrArg (·.distinct) h.core

lemma aggregate_eq (h : q.Twin p q') : q.aggregate = q'.aggregate :=
  congrArg (·.aggregate) h.core

lemma havings_eq (h : q.Twin p q') : q.havings = q'.havings :=
  congrArg (·.havings) h.core

/-- The orderings are equal and not only written alike, for no term of them holds a query. -/
lemma orders_eq (h : q.Twin p q') : q.orders = q'.orders :=
  congrArg (·.orders) h.core

lemma page_eq (h : q.Twin p q') : q.page = q'.page :=
  congrArg (·.page) h.core

lemma arms_eq (h : q.Twin p q') : q.arms = q'.arms :=
  congrArg (·.arms) h.core

lemma lock_eq (h : q.Twin p q') : q.lock = q'.lock :=
  congrArg (·.lock) h.core

/-- Twins have the same values in the same categories. -/
lemma bindings_eq (h : q.Twin p q') : q.bindings = q'.bindings :=
  congrArg (·.bindings) h.core

/-- The rows to insert, which are none if the query has none. -/
lemma inserted_eq (h : q.Twin p q') : q.inserted = q'.inserted :=
  congrArg (·.insertion.getD .none) h.core

lemma assignments_eq (h : q.Twin p q') : q.assignments = q'.assignments :=
  congrArg (·.assignments) h.core

lemma sequence_eq (h : q.Twin p q') : q.sequence = q'.sequence :=
  congrArg (·.sequence) h.core

lemma isJoin_eq (h : q.Twin p q') : q.isJoin = q'.isJoin :=
  congrArg (·.isJoin) h.core

/-- Twins have been refused for the same reason, or neither has been refused. -/
lemma error_eq (h : q.Twin p q') : q.error = q'.error :=
  congrArg (·.error) h.core

/-! ### What twins are written as -/

section Written

variable (h : q.Twin p q') (hs : s.Shared p) (hs' : s'.Shared p)

include h hs hs'

/-- The selected columns, or all of them where none are selected. -/
lemma selectedTexts_eq : s.selectedTexts q.columns = s'.selectedTexts q'.columns := by
  have hsome := h.columns_isSome
  have hcolumns := h.columns
  cases hq : q.columns with
  | none =>
      cases hq' : q'.columns with
      | none =>
          rw [Style.selectedTexts, Style.selectedTexts,
            hs.column_eq hs' (show Text.Flat "*" by decide)]
      | some columns' => simp [hq, hq'] at hsome
  | some columns =>
      cases hq' : q'.columns with
      | none => simp [hq, hq'] at hsome
      | some columns' =>
          rw [hq, hq'] at hcolumns
          rw [Style.selectedTexts, Style.selectedTexts, Style.columnTexts_eq, Style.columnTexts_eq]
          exact mapM_eq_of_forall₂ hcolumns fun _ _ hc => hc hs hs'

lemma predicateTexts_eq : s.predicateTexts q.predicates = s'.predicateTexts q'.predicates := by
  rw [Style.predicateTexts_eq, Style.predicateTexts_eq]
  exact mapM_eq_of_forall₂ h.predicates fun _ _ hx => hx hs hs'

lemma joinTexts_eq : s.joinTexts q.joins = s'.joinTexts q'.joins := by
  rw [Style.joinTexts_eq, Style.joinTexts_eq]
  exact mapM_eq_of_forall₂ h.joins fun _ _ hj => hj hs hs'

lemma groupTexts_eq : s.columnTexts q.groups = s'.columnTexts q'.groups := by
  rw [Style.columnTexts_eq, Style.columnTexts_eq]
  exact mapM_eq_of_forall₂ h.groups fun _ _ hc => hc hs hs'

/-- The head of a select: the function over the rows if there is one, else the columns. -/
lemma selectHead_eq : s.selectHead q (s.selectedTexts q.columns) q.aggregate
    = s'.selectHead q' (s'.selectedTexts q'.columns) q'.aggregate := by
  rw [h.selectedTexts_eq hs hs', ← h.aggregate_eq]
  cases ha : q.aggregate with
  | some a =>
      have hcall := hs.aggregateCall_eq hs' (h.portable.aggregate a ha) q.distinct
      simp only [Style.selectHead, Style.aggregateHead, hcall, hs.topSql_eq hs', ← h.distinct_eq,
        ← h.page_eq]
  | none =>
      have hhead : s.columnsHead q = s'.columnsHead q' := by
        funext columns
        simp only [Style.columnsHead, hs.topSql_eq hs', ← h.distinct_eq, ← h.page_eq]
      rw [Style.selectHead, Style.selectHead, hhead]

/-- Twins have the same clauses. -/
lemma selectBase_eq (hpage : q.page.Bounded) (t : Table) :
    s.selectBase q t = s'.selectBase q' t := by
  funext head joins predicates groups
  simp only [Style.selectBase, ← h.lock_eq, ← h.isJoin_eq, ← h.havings_eq, ← h.orders_eq,
    ← h.page_eq, hs.fromSql_eq hs', hs.havingList_eq hs' h.portable.havings,
    hs.ordering_eq hs' h.portable.orders, hs.limitSql_eq hs' hpage, hs.offsetSql_eq hs']

/-- The lock behind a select, which is none of the dialects' own. -/
lemma withLock_eq : s.withLock q.lock = s'.withLock q'.lock := by
  rw [← h.lock_eq]
  cases hl : q.lock with
  | none => rfl
  | some l =>
      funext sql
      simp only [Style.withLock, hs.lockSql_eq hs' (h.portable.lock l hl)]

/-- **Twins are written as the same select.** -/
theorem selectText_eq (hpage : q.page.Bounded) : s.selectText q = s'.selectText q' := by
  have harms' : q'.arms = [] := h.arms_eq ▸ h.portable.arms
  have hassemble : ∀ {s : Style} {q : Query}, q.arms = [] →
      s.selectText q = q.requireTable >>= fun t => s.assembleWith q t q.aggregate
        (s.selectParts q) := by
    intro s q harms
    rw [Style.selectText_eq, Style.assemble]
    cases q.aggregate <;> simp [harms]
  have htable : q.requireTable = q'.requireTable := by
    rw [requireTable, requireTable, h.table_eq, h.kind_eq]
  rw [hassemble h.portable.arms, hassemble harms', htable]
  congr 1
  funext t
  rw [Style.assembleWith_eq, Style.assembleWith_eq, h.portable.arms, harms']
  simp only [Style.selectParts, h.selectHead_eq hs hs', h.joinTexts_eq hs hs',
    h.predicateTexts_eq hs hs', h.groupTexts_eq hs hs', h.selectBase_eq hs hs' hpage,
    h.withLock_eq hs hs', List.isEmpty_nil, if_true]

end Written

end Twin

end Query

end SqlWeave
