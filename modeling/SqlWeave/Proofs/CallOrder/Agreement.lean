import SqlWeave.Proofs.Correspondence.Select
import SqlWeave.Proofs.UnionRedirection
import SqlWeave.Sql.Write

/-!
# Queries that agree in some of their clauses

Two programs that make the same calls in different orders do not always end with the same query: a
group is put together on a copy of the query around it, so it may remember a table that was set
before it.  The table of a group is never written.  What counts is what a clause is written as, and
that is what is compared here, one clause at a time.

* `Family.view` — what a query says in one clause and which values it binds for it.
* `Query.Alike` — **the relation**: the queries agree in every clause of a set.
* `Query.Alike.selectText_eq`, `Query.Alike.compile_eq` — queries that agree in all clauses are
  written alike.
-/

namespace SqlWeave

/-! ## What a part of a query is written as -/

/-- What a column is written as in each style. -/
def Column.writing (c : Column) (s : Style) : Except QueryError String :=
  s.columnText c

/-- What a predicate is written as, beside its conjunction. -/
def Predicate.writing (p : Predicate) (s : Style) : Except QueryError (Conjunction × String) :=
  s.writePredicate p

/-- What a join is written as. -/
def Join.writing (j : Join) (s : Style) : Except QueryError String :=
  s.joinText j

/-- What a united statement is written as. -/
def Arm.writing (a : Arm) (s : Style) : Except QueryError (Bool × String) :=
  s.armText a

/-- Lists of parts that are written alike one by one are written alike as a whole. -/
lemma mapM_eq_of_writings {α β : Type} {write : α → Style → Except QueryError β} {xs ys : List α}
    (h : xs.map write = ys.map write) (s : Style) :
    xs.mapM (fun x => write x s) = ys.mapM (fun y => write y s) := by
  have hmap : ∀ zs : List α,
      zs.mapM (fun z => write z s) = (zs.map write).mapM (fun w => w s) := by
    intro zs
    induction zs with
    | nil => rfl
    | cons z zs ih => rw [List.mapM_cons, List.map_cons, List.mapM_cons, ih]
  rw [hmap, hmap, h]

/-! ## One clause -/

/-- What is compared of a clause. -/
abbrev Family.View : Family → Type
  | .columns => StatementKind × Option (List (Style → Except QueryError String)) × List Value
  | .distinct | .writer => Bool
  | .table => Option Table
  | .joins => List (Style → Except QueryError String) × List Value
  | .predicates => List (Style → Except QueryError (Conjunction × String)) × List Value
  | .groups => List (Style → Except QueryError String)
  | .havings => List Having × List Value
  | .orders => (List Order × List Value) × List Order × List Value
  | .paging => Page × Page
  | .lock => Option Lock
  | .unions => List (Style → Except QueryError (Bool × String)) × List Value

/-- What a query says in one clause and which values it binds for it. -/
def Family.view : (f : Family) → Query → f.View
  | .columns, q => (q.kind, q.columns.map (List.map Column.writing), q.bindings.select)
  | .distinct, q => q.distinct
  | .table, q => q.table
  | .joins, q => (q.joins.map Join.writing, q.bindings.join)
  | .predicates, q => (q.predicates.map Predicate.writing, q.bindings.filter)
  | .groups, q => q.groups.map Column.writing
  | .havings, q => (q.havings, q.bindings.having)
  | .orders, q => ((q.orders, q.bindings.order), q.unionOrders, q.bindings.orderValues)
  | .paging, q => (q.page, q.unionPage)
  | .lock, q => q.lock
  | .unions, q => (q.arms.map Arm.writing, q.bindings.armValues)
  | .writer, q => q.usesWriter

/-- **Two queries that agree in every clause of the set `S`.**  Where an ordering or a page goes
depends on whether there is a union, so for these two clauses that counts as well. -/
structure Query.Alike (S : Family → Prop) (q q' : Query) : Prop where
  style : q.style = q'.style
  isJoin : q.isJoin = q'.isJoin
  aggregate : q.aggregate = q'.aggregate
  tidy : q.bindings.Tidy
  tidy' : q'.bindings.Tidy
  united : S .orders ∨ S .paging → q.hasUnion = q'.hasUnion
  view : ∀ f, S f → f.view q = f.view q'

/-- Two queries that agree in every clause. -/
abbrev Query.Same (q q' : Query) : Prop :=
  q.Alike (fun _ => True) q'

/-- Two queries that agree in every clause but the table. -/
abbrev Query.SameButTable (q q' : Query) : Prop :=
  q.Alike (· ≠ .table) q'

namespace Query.Alike

variable {S S' : Family → Prop} {q q' q'' : Query}

/-- A query agrees with itself, once its values are tidy. -/
lemma refl (S : Family → Prop) (h : q.bindings.Tidy) : q.Alike S q :=
  ⟨rfl, rfl, rfl, h, h, fun _ => rfl, fun _ _ => rfl⟩

lemma symm (h : q.Alike S q') : q'.Alike S q :=
  ⟨h.style.symm, h.isJoin.symm, h.aggregate.symm, h.tidy', h.tidy, fun hS => (h.united hS).symm,
    fun f hf => (h.view f hf).symm⟩

/-- Agreement in a set of clauses can be chained: the queries in between need not be written alike
in the others. -/
lemma trans (h : q.Alike S q') (h' : q'.Alike S q'') : q.Alike S q'' :=
  ⟨h.style.trans h'.style, h.isJoin.trans h'.isJoin, h.aggregate.trans h'.aggregate, h.tidy,
    h'.tidy', fun hS => (h.united hS).trans (h'.united hS),
    fun f hf => (h.view f hf).trans (h'.view f hf)⟩

/-- Fewer clauses. -/
lemma mono (h : q.Alike S q') (hsub : ∀ f, S' f → S f) : q.Alike S' q' :=
  { h with
    united := fun hS' => h.united (hS'.imp (hsub .orders) (hsub .paging))
    view := fun f hf => h.view f (hsub f hf) }

/-- Groups and joins are compared without their table. -/
lemma butTable (h : q.Same q') : q.SameButTable q' :=
  h.mono fun _ _ => trivial

/-- Two sets of clauses that together are all of them. -/
lemma or (h : q.Alike S q') (h' : q.Alike S' q') (hall : ∀ f, S f ∨ S' f) :
    q.Same q' :=
  { h with
    united := fun _ => (hall .orders).elim (fun hS => h.united (Or.inl hS))
      fun hS' => h'.united (Or.inl hS')
    view := fun f _ => (hall f).elim (h.view f) (h'.view f) }

end Query.Alike

/-! ## What agreeing queries are written as -/

namespace Query.Alike

variable {S : Family → Prop} {q q' : Query}

/-- Agreement in one clause, as the data of that clause; first the columns. -/
lemma columns (h : q.Alike S q') (hS : S .columns) : q.kind = q'.kind ∧
    q.columns.map (List.map Column.writing) = q'.columns.map (List.map Column.writing) ∧
    q.bindings.select = q'.bindings.select := by
  obtain ⟨hkind, hrest⟩ := Prod.mk.inj (h.view .columns hS)
  exact ⟨hkind, Prod.mk.inj hrest⟩

lemma joins (h : q.Alike S q') (hS : S .joins) :
    q.joins.map Join.writing = q'.joins.map Join.writing ∧ q.bindings.join = q'.bindings.join := by
  exact Prod.mk.inj (h.view .joins hS)

lemma predicates (h : q.Alike S q') (hS : S .predicates) :
    q.predicates.map Predicate.writing = q'.predicates.map Predicate.writing ∧
      q.bindings.filter = q'.bindings.filter := by
  exact Prod.mk.inj (h.view .predicates hS)

lemma havings (h : q.Alike S q') (hS : S .havings) :
    q.havings = q'.havings ∧ q.bindings.having = q'.bindings.having := by
  exact Prod.mk.inj (h.view .havings hS)

/-- For the ordering, that of the query and that of the union are compared together. -/
lemma orders (h : q.Alike S q') (hS : S .orders) :
    (q.orders = q'.orders ∧ q.bindings.order = q'.bindings.order) ∧
      q.unionOrders = q'.unionOrders ∧ q.bindings.orderValues = q'.bindings.orderValues := by
  obtain ⟨horders, hunion⟩ := Prod.mk.inj (h.view .orders hS)
  exact ⟨Prod.mk.inj horders, Prod.mk.inj hunion⟩

lemma paging (h : q.Alike S q') (hS : S .paging) :
    q.page = q'.page ∧ q.unionPage = q'.unionPage := by
  exact Prod.mk.inj (h.view .paging hS)

/-- United statements are compared by what they are written as. -/
lemma unions (h : q.Alike S q') (hS : S .unions) :
    q.arms.map Arm.writing = q'.arms.map Arm.writing ∧
      q.bindings.armValues = q'.bindings.armValues := by
  exact Prod.mk.inj (h.view .unions hS)

/-- The table of a query has no values. -/
lemma flatten_eq (h : q.SameButTable q') : q.bindings.flatten = q'.bindings.flatten := by
  obtain ⟨-, -, hselect⟩ := h.columns (by decide)
  obtain ⟨-, hjoin⟩ := h.joins (by decide)
  obtain ⟨-, hfilter⟩ := h.predicates (by decide)
  obtain ⟨-, hhaving⟩ := h.havings (by decide)
  obtain ⟨⟨-, horder⟩, -, horders⟩ := h.orders (by decide)
  obtain ⟨-, harms⟩ := h.unions (by decide)
  rw [Bindings.flatten_eq, Bindings.flatten_eq, hselect, hjoin, hfilter, hhaving, horder,
    q.bindings.union_eq, q'.bindings.union_eq, harms, horders]

/-- The selected columns are read as one list, or as all of them where none are selected. -/
lemma selectedTexts_eq {s : Style} {columns columns' : Option (List Column)}
    (h : columns.map (List.map Column.writing) = columns'.map (List.map Column.writing)) :
    s.selectedTexts columns = s.selectedTexts columns' := by
  cases columns <;> cases columns' <;> simp only [Option.map_none, Option.map_some] at h
  · rfl
  · cases h
  · cases h
  · rw [Style.selectedTexts, Style.selectedTexts, Style.columnTexts_eq, Style.columnTexts_eq]
    exact mapM_eq_of_writings (Option.some.inj h) s

/-- Every part of a select is written alike. -/
lemma selectParts_eq (h : q.Same q') (s : Style) :
    s.selectParts q = s.selectParts q' := by
  obtain ⟨-, hcolumns, -⟩ := h.columns trivial
  simp only [Style.selectParts, Style.joinTexts_eq, Style.predicateTexts_eq, Style.columnTexts_eq,
    Style.armTexts_eq]
  rw [selectedTexts_eq hcolumns]
  congr 1
  · exact mapM_eq_of_writings (h.joins trivial).1 s
  · exact mapM_eq_of_writings (h.predicates trivial).1 s
  · exact mapM_eq_of_writings (h.view .groups trivial) s
  · exact mapM_eq_of_writings (h.unions trivial).1 s

/-- **Queries that agree in everything are written as the same select**, in any style. -/
lemma selectText_eq (h : q.Same q') (s : Style) :
    s.selectText q = s.selectText q' := by
  have hkind : q.kind = q'.kind := (h.columns trivial).1
  have hdistinct : q.distinct = q'.distinct := h.view .distinct trivial
  have htable : q.table = q'.table := h.view .table trivial
  have hhavings : q.havings = q'.havings := (h.havings trivial).1
  obtain ⟨⟨horders, -⟩, hunionOrders, -⟩ := h.orders trivial
  obtain ⟨hpage, hunionPage⟩ := h.paging trivial
  have hlock : q.lock = q'.lock := h.view .lock trivial
  have hunited : q.arms.isEmpty = q'.arms.isEmpty := by
    simpa [hasUnion] using h.united (Or.inl trivial)
  have hunion : s.unionSql q = s.unionSql q' := by
    funext base arms
    simp only [Style.unionSql, Style.unionTail, hunionOrders, hunionPage]
  have hcolumns : s.columnsHead q = s.columnsHead q' := by
    funext columns
    simp only [Style.columnsHead, hdistinct, hpage]
  rw [Style.selectText_eq, Style.selectText_eq, h.selectParts_eq s]
  simp only [Style.assemble, requireTable, Style.assembleWith_eq, Style.selectHead,
    Style.aggregateHead, Style.selectBase, hkind, hdistinct, htable, hhavings, horders, hpage,
    hlock, hunited, hunion, hcolumns, h.aggregate, h.isJoin]

/-- Two selects without refusals. -/
lemma compile_eq (h : q.Same q') (hselect : q.kind = .select)
    (herror : q.error = none) (herror' : q'.error = none) : q'.compile = q.compile := by
  have hselect' : q'.kind = .select := (h.columns trivial).1 ▸ hselect
  have hvalues := h.butTable.flatten_eq
  rw [Query.compile, Query.compile, Query.validate, Query.validate, herror, herror', hselect,
    hselect']
  simp only [Style.select, h.style, h.selectText_eq, hvalues]

end Query.Alike

end SqlWeave
