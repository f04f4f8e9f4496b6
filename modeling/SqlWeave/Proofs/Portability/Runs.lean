import Mathlib.Data.List.Forall2
import SqlWeave.Proofs.Portability.Programs
import SqlWeave.Proofs.Portability.Twins

/-!
# Runs of a portable program

A portable program makes twins, whatever styles it is run in: every call keeps twins twins, and the
queries that it builds on the way are twins themselves.

* `Query.Twin.addPredicate`, `Query.Twin.addColumns` and the like — one lemma for each operation.
* `Call.twin_run` — a call on both sides.
* `Recipe.twin_build` — **a program in two styles**.
-/

namespace SqlWeave

variable {p : String}

/-- Lists that are related one by one are empty together. -/
lemma isEmpty_eq_of_forall₂ {α β : Type} {R : α → β → Prop} {xs : List α} {ys : List β}
    (h : List.Forall₂ R xs ys) : xs.isEmpty = ys.isEmpty := by
  cases h <;> rfl

/-! ## Columns that hold no query -/

/-- A plain name is written alike, because it means no place inside of a document. -/
lemma Column.twin_name {column : String} (h : Text.Flat column) :
    (Column.name column).Twin p (.name column) := by
  intro s s' hs hs'
  rw [Style.columnText, Style.columnText, hs.column_eq hs' h]

/-- Raw SQL is copied into every text as it stands. -/
lemma Column.twin_raw (sql : String) : (Column.raw sql).Twin p (.raw sql) :=
  fun _ _ => rfl

namespace Query.Twin

variable {q q' sub sub' : Query} {name : String}

/-! ## Parts that hold a query -/

/-- A subquery as a column: its text is that of its twin, and its label is a name like any other. -/
lemma column (h : sub.Twin p sub') (hpage : sub.page.Bounded) (label : String) :
    (Column.sub sub label).Twin p (.sub sub' label) := by
  intro s s' hs hs'
  rw [Style.columnText, Style.columnText, h.selectText_eq hs hs' hpage, hs.segment_eq hs']

/-- A column in a subquery.  The page of the subquery has to be bounded, for an offset without a
limit is written in another way by each dialect. -/
lemma isInSub (h : sub.Twin p sub') (hpage : sub.page.Bounded) (hname : Text.Flat name)
    (negated : Bool) (c : Conjunction) :
    (Predicate.isInSub name sub negated c).Twin p (.isInSub name sub' negated c) := by
  intro s s' hs hs'
  simp only [Style.writePredicate, Style.predicateText, h.selectText_eq hs hs' hpage,
    hs.column_eq hs' hname]
  rfl

lemma compareSub (h : sub.Twin p sub') (hpage : sub.page.Bounded) (hname : Text.Flat name)
    (operator : String) (c : Conjunction) :
    (Predicate.compareSub name operator sub c).Twin p (.compareSub name operator sub' c) := by
  intro s s' hs hs'
  simp only [Style.writePredicate, Style.predicateText, h.selectText_eq hs hs' hpage,
    hs.column_eq hs' hname]
  rfl

/-- A subquery that is asked for rows.  No column stands in front of it, so nothing is said of a
name. -/
lemma existsSub (h : sub.Twin p sub') (hpage : sub.page.Bounded) (negated : Bool)
    (c : Conjunction) : (Predicate.exists sub negated c).Twin p (.exists sub' negated c) := by
  intro s s' hs hs'
  simp only [Style.writePredicate, Style.predicateText, h.selectText_eq hs hs' hpage]
  rfl

/-- The predicates of a query by themselves, as groups and joins write them. -/
lemma ownPredicateTexts_eq (h : q.Twin p q') {s s' : Style} (hs : s.Shared p)
    (hs' : s'.Shared p) : s.ownPredicateTexts q = s'.ownPredicateTexts q' := by
  rw [Style.ownPredicateTexts_eq, Style.ownPredicateTexts_eq]
  exact mapM_eq_of_forall₂ h.predicates fun _ _ hx => hx hs hs'

/-- A group is written by its predicates and by whether it is a join. -/
lemma nested (h : q.Twin p q') (c : Conjunction) :
    (Predicate.nested q c).Twin p (.nested q' c) := by
  intro s s' hs hs'
  simp only [Style.writePredicate, Style.predicateText, h.ownPredicateTexts_eq hs hs', h.isJoin_eq]
  rfl

/-- A join of a table on both sides. -/
lemma join (h : q.Twin p q') (kind : JoinKind) (t : Table) :
    (Join.mk kind t q).Twin p ⟨kind, t, q'⟩ := by
  intro s s' hs hs'
  simp only [Style.joinText, h.ownPredicateTexts_eq hs hs', h.isJoin_eq, hs.tableSql_eq hs']

/-! ## New queries -/

/-- The queries at the start of a program differ in the style alone. -/
lemma empty (s s' : Style) : (Query.empty s).Twin p (Query.empty s') where
  portable := ⟨nofun, nofun, nofun, nofun, nofun, nofun, rfl, fun _ => rfl, fun _ => rfl⟩
  core := rfl
  columns_isSome := rfl
  columns := .nil
  joins := .nil
  predicates := .nil
  groups := .nil

/-- A join is begun with its table and nothing else, so those of any two queries are twins. -/
lemma freshJoin (q q' : Query) (table : String) :
    (q.freshJoin table).Twin p (q'.freshJoin table) :=
  have hempty := empty (p := p) q.style q'.style
  { hempty with
    portable := { hempty.portable with }
    core := rfl }

/-- Of a query, only the table and whether it is a join are copied. -/
lemma fresh (h : q.Twin p q') : q.fresh.Twin p q'.fresh :=
  have hempty := empty (p := p) q.style q'.style
  { hempty with
    portable := { hempty.portable with }
    core := congrArg (fun k => k.fresh.core) h.core }

/-! ## Refusals and values -/

lemma failWith (h : q.Twin p q') (e : Option QueryError) :
    (q.failWith e).Twin p (q'.failWith e) :=
  { h with
    portable := { h.portable with }
    core := congrArg (·.failWith e) h.core }

/-- Values of clauses whose values may be there without the clause. -/
lemma bindAll (h : q.Twin p q') {c : Category} (hc : c = .select ∨ c = .filter ∨ c = .having)
    (values : List Value) : (q.bindAll c values).Twin p (q'.bindAll c values) :=
  { h with
    portable := { h.portable with
      joinValues := by rcases hc with rfl | rfl | rfl <;> exact h.portable.joinValues
      orderValues := by rcases hc with rfl | rfl | rfl <;> exact h.portable.orderValues }
    core := congrArg (·.bindAll c values) h.core }

/-- A subquery brings its refusal and its values. -/
lemma absorb (h : q.Twin p q') (hsub : sub.Twin p sub') {c : Category}
    (hc : c = .select ∨ c = .filter ∨ c = .having) :
    (q.absorb sub c).Twin p (q'.absorb sub' c) := by
  rw [Query.absorb, Query.absorb, ← hsub.error_eq, ← hsub.bindings_eq]
  exact (h.failWith sub.error).bindAll hc sub.bindings.flatten

/-! ## Columns and table -/

/-- The table is part of what twins share, so it is set for both at once. -/
lemma onTable (h : q.Twin p q') (name : String) : (q.onTable name).Twin p (q'.onTable name) :=
  { h with
    portable := { h.portable with }
    core := congrArg (·.onTable name) h.core }

lemma onRaw (h : q.Twin p q') (sql : String) : (q.onRaw sql).Twin p (q'.onRaw sql) :=
  { h with
    portable := { h.portable with }
    core := congrArg (·.onRaw sql) h.core }

lemma makeDistinct (h : q.Twin p q') : q.makeDistinct.Twin p q'.makeDistinct :=
  { h with
    portable := { h.portable with }
    core := congrArg (·.makeDistinct) h.core }

lemma onWriter (h : q.Twin p q') : q.onWriter.Twin p q'.onWriter :=
  { h with
    portable := { h.portable with }
    core := congrArg (·.onWriter) h.core }

section Columns

variable {columns columns' : List Column} (hcolumns : List.Forall₂ (Column.Twin p) columns columns')

include hcolumns

/-- The columns on both sides are related one by one, for a subquery among them remembers its
style. -/
lemma select (h : q.Twin p q') : (q.select columns).Twin p (q'.select columns') :=
  { h with
    portable := { h.portable with }
    core := congrArg (fun k => (k.select []).core) h.core
    columns_isSome := rfl
    columns := hcolumns }

lemma addColumns (h : q.Twin p q') : (q.addColumns columns).Twin p (q'.addColumns columns') :=
  { h with
    portable := { h.portable with }
    core := h.core
    columns_isSome := rfl
    columns := List.rel_append h.columns hcolumns }

/-- What a select is grouped by is a list of columns too. -/
lemma groupBy (h : q.Twin p q') : (q.groupBy columns).Twin p (q'.groupBy columns') :=
  { h with
    portable := { h.portable with }
    core := h.core
    groups := List.rel_append h.groups hcolumns }

end Columns

lemma addRaw (h : q.Twin p q') (sql : String) (values : List Value) :
    (q.addRaw sql values).Twin p (q'.addRaw sql values) :=
  (h.addColumns (.cons (Column.twin_raw sql) .nil)).bindAll (by decide) values

/-! ## Predicates -/

/-- **A predicate that is written alike on both sides keeps twins twins.**  The operations below
bring their values and come to this. -/
lemma addPredicate (h : q.Twin p q') {x x' : Predicate} (hx : x.Twin p x') :
    (q.addPredicate x).Twin p (q'.addPredicate x') :=
  { h with
    portable := { h.portable with }
    core := h.core
    predicates := List.rel_append h.predicates (.cons hx .nil) }

/-- A predicate that holds no query, with its values. -/
lemma addFiltered (h : q.Twin p q') (values : List Value) {x : Predicate} (hx : x.Portable) :
    ((q.bindAll .filter values).addPredicate x).Twin p
      ((q'.bindAll .filter values).addPredicate x) :=
  (h.bindAll (by decide) values).addPredicate hx.twin

/-- A test for null is the same in all dialects. -/
lemma whereNull (h : q.Twin p q') (hname : Text.Flat name) (negated : Bool) (c : Conjunction) :
    (q.whereNull name negated c).Twin p (q'.whereNull name negated c) :=
  h.addPredicate (Predicate.Portable.twin (x := .isNull name negated c) hname)

/-- Whether a comparison is turned into a test for null or refused is decided by the operator and
the operand, which are the same on both sides. -/
lemma addComparison (h : q.Twin p q') (hname : Text.Flat name) (operator : String)
    (operand : Param) (c : Conjunction) : (q.addComparison name operator operand c).Twin p
      (q'.addComparison name operator operand c) := by
  simp only [Query.addComparison]
  split_ifs
  · exact h.whereNull hname false c
  · exact h.whereNull hname true c
  · exact h.failWith _
  · exact h.addFiltered _ hname

/-- An operator that every dialect knows passes the check on both sides. -/
lemma whereCompare (h : q.Twin p q') (hname : Text.Flat name) {operator : String}
    (hoperator : Dialect.AllKnow operator) (operand : Param) (c : Conjunction) :
    (q.whereCompare name operator operand c).Twin p (q'.whereCompare name operator operand c) := by
  rw [Query.whereCompare, Query.whereCompare, if_pos (Style.knows_of_allKnow hoperator _),
    if_pos (Style.knows_of_allKnow hoperator _)]
  exact h.addComparison hname operator operand c

/-- Two columns with an operator that every dialect knows between them. -/
lemma whereColumns (h : q.Twin p q') (hname : Text.Flat name) {operator second : String}
    (hoperator : Dialect.AllKnow operator) (hsecond : Text.Flat second) (c : Conjunction) :
    (q.whereColumns name operator second c).Twin p (q'.whereColumns name operator second c) := by
  rw [Query.whereColumns, Query.whereColumns, if_pos (Style.knows_of_allKnow hoperator _),
    if_pos (Style.knows_of_allKnow hoperator _)]
  exact h.addPredicate
    (Predicate.Portable.twin (x := .columns name _ second c) ⟨hname, hsecond⟩)

/-- Of a group, only the predicates are written and only their values are taken. -/
lemma addGroup (h : q.Twin p q') (hsub : sub.Twin p sub') (c : Conjunction) :
    (q.addGroup sub c).Twin p (q'.addGroup sub' c) := by
  have hempty := isEmpty_eq_of_forall₂ hsub.predicates
  simp only [Query.addGroup, ← hempty, ← hsub.error_eq, ← hsub.bindings_eq]
  split_ifs
  · exact h.failWith _
  · exact ((h.failWith _).bindAll (by decide) _).addPredicate (hsub.nested c)

/-- Several comparisons are made in a group of their own. -/
lemma whereAll (h : q.Twin p q') {pairs : List (String × Param)} (hpairs : Pairs.Flat pairs)
    (c : Conjunction) : (q.whereAll pairs c).Twin p (q'.whereAll pairs c) := by
  refine h.addGroup ?_ c
  -- The pairs go one by one into both groups.
  have hfold : ∀ {q q' : Query}, q.Twin p q' →
      (pairs.foldl (fun q pair => q.whereEq pair.1 pair.2 c) q).Twin p
        (pairs.foldl (fun q pair => q.whereEq pair.1 pair.2 c) q') := by
    induction pairs with
    | nil => exact fun h => h
    | cons pair pairs ih =>
        obtain ⟨hpair, hpairs⟩ := List.forall_mem_cons.mp hpairs
        exact fun h => ih hpairs (h.addComparison hpair "=" pair.2 c)
  exact hfold h.fresh

/-- The values of a list, in the order in which they are given. -/
lemma whereIn (h : q.Twin p q') (hname : Text.Flat name) (operands : List Param) (negated : Bool)
    (c : Conjunction) :
    (q.whereIn name operands negated c).Twin p (q'.whereIn name operands negated c) :=
  h.addFiltered _ hname

/-- The lower bound is bound before the upper one, on both sides. -/
lemma whereBetween (h : q.Twin p q') (hname : Text.Flat name) (low high : Param) (negated : Bool)
    (c : Conjunction) :
    (q.whereBetween name low high negated c).Twin p (q'.whereBetween name low high negated c) :=
  (h.bindAll (by decide) _).addFiltered _ hname

/-! ## Subqueries

A subquery is begun in the style of the query around it.  Its page is looked up in one style only,
so its twins are asked for from all of them. -/

/-- Twins of one query have the same page. -/
lemma bounded {whole : Query} (h : sub.Twin p whole) (h' : sub'.Twin p whole)
    (hpage : sub'.page.Bounded) : sub.page.Bounded := by
  rwa [h.page_eq, ← h'.page_eq]

section Subqueries

variable (h : q.Twin p q') {build build' : Query → Query}
  (hbuild : ∀ s, (build (.empty s)).Twin p (build' q'.freshSub))
  (hpage : (build (.empty (.plain .ansi))).page.Bounded)

include h hbuild hpage

/-- A subquery as a column: its values are taken in before it is added. -/
lemma addSub (label : String) : (q.addSub label build).Twin p (q'.addSub label build') :=
  have hsub := hbuild q.style
  (h.absorb hsub (by decide)).addColumns
    (.cons (hsub.column (hsub.bounded (hbuild _) hpage) label) .nil)

/-- A column in a subquery that is built from the query. -/
lemma whereInSub (hname : Text.Flat name) (negated : Bool) (c : Conjunction) :
    (q.whereInSub name build negated c).Twin p (q'.whereInSub name build' negated c) :=
  have hsub := hbuild q.style
  (h.absorb hsub (by decide)).addPredicate
    (hsub.isInSub (hsub.bounded (hbuild _) hpage) hname negated c)

/-- A column compared with a subquery, with an operator that every dialect knows. -/
lemma whereSub (hname : Text.Flat name) {operator : String}
    (hoperator : Dialect.AllKnow operator) (c : Conjunction) :
    (q.whereSub name operator build c).Twin p (q'.whereSub name operator build' c) := by
  rw [Query.whereSub, Query.whereSub, if_pos (Style.knows_of_allKnow hoperator _),
    if_pos (Style.knows_of_allKnow hoperator _)]
  have hsub := hbuild q.style
  exact (h.absorb hsub (by decide)).addPredicate
    (hsub.compareSub (hsub.bounded (hbuild _) hpage) hname _ c)

/-- A subquery that is asked for rows, built from the query. -/
lemma whereExists (negated : Bool) (c : Conjunction) :
    (q.whereExists build negated c).Twin p (q'.whereExists build' negated c) :=
  have hsub := hbuild q.style
  (h.absorb hsub (by decide)).addPredicate
    (hsub.existsSub (hsub.bounded (hbuild _) hpage) negated c)

end Subqueries

/-! ## Joins -/

/-- A join is built on a query of its own; its refusal and its values come over to the query. -/
lemma addJoin (h : q.Twin p q') (kind : JoinKind) (table : String) {build build' : Query → Query}
    (hsub : (build (q.freshJoin table)).Twin p (build' (q'.freshJoin table))) :
    (q.addJoin kind table build).Twin p (q'.addJoin kind table build') where
  portable := { h.portable with
    joinValues := fun hnone => absurd hnone (List.concat_ne_nil _ _) }
  core := by
    change ((q.core.failWith _).bindAll .join _).core = ((q'.core.failWith _).bindAll .join _).core
    rw [h.core, hsub.error_eq, hsub.bindings_eq]
  columns_isSome := h.columns_isSome
  columns := h.columns
  joins := List.rel_append h.joins (.cons (hsub.join kind (.named table)) .nil)
  predicates := h.predicates
  groups := h.groups

/-! ## Groups, orderings and pages -/

lemma addHaving (h : q.Twin p q') {x : Having} (hx : x.Portable) :
    (q.addHaving x).Twin p (q'.addHaving x) :=
  { h with
    portable := { h.portable with
      havings := List.forall_mem_append.mpr
        ⟨h.portable.havings, List.forall_mem_singleton.mpr hx⟩ }
    core := congrArg (·.addHaving x) h.core }

/-- A comparison on groups with an operator that every dialect knows. -/
lemma having (h : q.Twin p q') (hname : Text.Flat name) {operator : String}
    (hoperator : Dialect.AllKnow operator) (operand : Param) (c : Conjunction) :
    (q.having name operator operand c).Twin p (q'.having name operator operand c) := by
  rw [Query.having, Query.having, if_pos (Style.knows_of_allKnow hoperator _),
    if_pos (Style.knows_of_allKnow hoperator _)]
  exact (h.bindAll (by decide) _).addHaving hname

lemma havingRaw (h : q.Twin p q') (sql : String) (values : List Value) (c : Conjunction) :
    (q.havingRaw sql values c).Twin p (q'.havingRaw sql values c) :=
  (h.bindAll (by decide) values).addHaving trivial

lemma havingBetween (h : q.Twin p q') (hname : Text.Flat name) (low high : Param) :
    (q.havingBetween name low high).Twin p (q'.havingBetween name low high) :=
  ((h.bindAll (by decide) _).bindAll (by decide) _).addHaving hname

/-- Without united statements, orderings and pages are those of the query. -/
lemma not_hasUnion (h : q.Twin p q') : ¬q.hasUnion ∧ ¬q'.hasUnion := by
  simp [hasUnion, ← h.arms_eq, h.portable.arms]

/-- A further term of the ordering together with the values that it may bring. -/
lemma orderedBy (h : q.Twin p q') {o : Order} (ho : o.Portable) {b b' : Bindings} (hb : b = b')
    (hjoin : q.joins = [] → b.join = []) :
    Query.Twin p { q with orders := q.orders ++ [o], bindings := b }
      { q' with orders := q'.orders ++ [o], bindings := b' } :=
  { h with
    portable := { h.portable with
      orders := List.forall_mem_append.mpr ⟨h.portable.orders, List.forall_mem_singleton.mpr ho⟩
      joinValues := hjoin
      orderValues := fun hnone => absurd hnone (List.concat_ne_nil _ _) }
    core := hb ▸ congrArg (fun k => { k with orders := k.orders ++ [o], bindings := b }) h.core }

/-- Twins have no united statements, so the term is one of their own ordering. -/
lemma addOrder (h : q.Twin p q') {o : Order} (ho : o.Portable) :
    (q.addOrder o).Twin p (q'.addOrder o) := by
  rw [Query.addOrder, Query.addOrder, if_neg h.not_hasUnion.1, if_neg h.not_hasUnion.2]
  exact h.orderedBy ho h.bindings_eq h.portable.joinValues

/-- The direction is read from a text in the same way on both sides: either both have the term or
both are refused. -/
lemma orderByText (h : q.Twin p q') (hname : Text.Flat name) (direction : String) :
    (q.orderByText name direction).Twin p (q'.orderByText name direction) := by
  rw [Query.orderByText, Query.orderByText]
  split
  · exact h.addOrder hname
  · exact h.failWith _

/-- A raw term of the ordering, whose values go to those of the ordering. -/
lemma orderByRaw (h : q.Twin p q') (sql : String) (values : List Value) :
    (q.orderByRaw sql values).Twin p (q'.orderByRaw sql values) := by
  have hvalues : ∀ {q : Query}, ¬q.hasUnion → q.orderByRaw sql values = { q with
      orders := q.orders ++ [.raw sql]
      bindings := q.bindings.extend .order values } := by
    intro q hq
    rw [Query.orderByRaw, if_neg hq]
    exact if_neg hq
  rw [hvalues h.not_hasUnion.1, hvalues h.not_hasUnion.2]
  exact h.orderedBy (o := .raw sql) trivial (congrArg (·.extend .order values) h.bindings_eq)
    h.portable.joinValues

/-- A limit on the page of the query itself. -/
lemma setLimit (h : q.Twin p q') (n : UInt64) : (q.setLimit n).Twin p (q'.setLimit n) := by
  rw [Query.setLimit, Query.setLimit, if_neg h.not_hasUnion.1, if_neg h.not_hasUnion.2]
  exact
    { h with
      portable := { h.portable with }
      core := congrArg (fun k => { k with page := { k.page with limit := some n } }) h.core }

lemma setOffset (h : q.Twin p q') (n : UInt64) : (q.setOffset n).Twin p (q'.setOffset n) := by
  rw [Query.setOffset, Query.setOffset, if_neg h.not_hasUnion.1, if_neg h.not_hasUnion.2]
  exact
    { h with
      portable := { h.portable with }
      core := congrArg (fun k => { k with page := { k.page with offset := some n } }) h.core }

/-- A page is an offset and a limit. -/
lemma forPage (h : q.Twin p q') (page perPage : UInt64) :
    (q.forPage page perPage).Twin p (q'.forPage page perPage) :=
  (h.setOffset (rowsBefore page perPage)).setLimit perPage

lemma setLock (h : q.Twin p q') {l : Lock} (hl : l.Portable) :
    (q.setLock l).Twin p (q'.setLock l) :=
  { h with
    portable := { h.portable with
      lock := fun _ hmem => Option.some.inj hmem ▸ hl }
    core := congrArg (·.setLock l) h.core }

/-! ## Changes -/

lemma setInsertion (h : q.Twin p q') {i : Insertion} (hi : ∀ n ∈ i.columns, Text.Flat n) :
    (q.setInsertion i).Twin p (q'.setInsertion i) :=
  { h with
    portable := { h.portable with insertion := hi }
    core := congrArg (·.setInsertion i) h.core }

/-- Whether the row brings the columns along, is refused or is matched by name depends on the
columns that are there, and these are shared. -/
lemma insertRow (h : q.Twin p q') {pairs : List (String × Param)} (hpairs : Pairs.Flat pairs) :
    (q.insertRow pairs).Twin p (q'.insertRow pairs) := by
  simp only [Query.insertRow, ← h.inserted_eq]
  split_ifs
  · exact h.setInsertion (List.forall_mem_map.mpr hpairs)
  · split
    · exact (h.setInsertion h.portable.insertion).failWith _
    · exact h.setInsertion h.portable.insertion

/-- The columns of an insertion, if they are plain. -/
lemma insertColumns (h : q.Twin p q') {columns : List String}
    (hcolumns : ∀ n ∈ columns, Text.Flat n) :
    (q.insertColumns columns).Twin p (q'.insertColumns columns) := by
  rw [Query.insertColumns, Query.insertColumns, ← h.inserted_eq]
  exact h.setInsertion hcolumns

/-- A further row under the columns that are there. -/
lemma insertValues (h : q.Twin p q') (cells : List Param) :
    (q.insertValues cells).Twin p (q'.insertValues cells) := by
  rw [Query.insertValues, Query.insertValues, ← h.inserted_eq]
  exact h.setInsertion h.portable.insertion

/-- A row, and the column whose value is to be reported. -/
lemma insertReturning (h : q.Twin p q') {pairs : List (String × Param)}
    (hpairs : Pairs.Flat pairs) (sequence : Option String) :
    (q.insertReturning pairs sequence).Twin p (q'.insertReturning pairs sequence) :=
  have hrow := h.insertRow hpairs
  { hrow with
    portable := { hrow.portable with }
    core := congrArg (fun k => { k with sequence := some (sequence.getD "id") }) hrow.core }

lemma setAssignments (h : q.Twin p q') {assignments : List (String × Param)}
    (hassignments : Pairs.Flat assignments) :
    (q.setAssignments assignments).Twin p (q'.setAssignments assignments) :=
  { h with
    portable := { h.portable with assignments := hassignments }
    core := congrArg (·.setAssignments assignments) h.core }

lemma makeDelete (h : q.Twin p q') : q.makeDelete.Twin p q'.makeDelete :=
  { h with
    portable := { h.portable with }
    core := congrArg (·.makeDelete) h.core }

/-! ## Functions over the rows -/

/-- A function over the rows takes the place of the columns.  Whether the ordering goes too depends
on whether there are groups, which twins agree on. -/
lemma toAggregate (h : q.Twin p q') (function : String) {columns : List String}
    (hcolumns : ∀ n ∈ columns, Text.Flat n) :
    (q.toAggregate function columns).Twin p (q'.toAggregate function columns) := by
  have hgroups := isEmpty_eq_of_forall₂ h.groups
  simp only [Query.toAggregate, ← hgroups]
  split_ifs
  · exact
      { h with
        portable := { h.portable with
          orders := nofun
          aggregate := fun _ hmem => Option.some.inj hmem ▸ hcolumns
          orderValues := fun _ => rfl }
        core := congrArg (·.toAggregate function columns) h.core
        columns_isSome := rfl
        columns := .nil }
  · exact
      { h with
        portable := { h.portable with
          aggregate := fun _ hmem => Option.some.inj hmem ▸ hcolumns }
        core := congrArg (fun k => { k with
          kind := .select
          bindings := k.bindings.clear .select
          aggregate := some ⟨function, columns⟩ }) h.core
        columns_isSome := rfl
        columns := .nil }

end Query.Twin

/-! ## Whole programs -/

section Programs

variable (f : Style → Style)

mutual

/-- **A call keeps twins twins.** -/
theorem Call.twin_run {q q' : Query} (h : q.Twin p q') :
    ∀ {call : Call}, call.Portable → (call.run q).Twin p ((call.restyle f).run q')
  | .onTable name, _ => h.onTable name
  | .onRaw sql, _ => h.onRaw sql
  | .select _, hcall => h.select (Selection.twin_columns hcall)
  | .addColumns _, hcall => h.addColumns (Selection.twin_columns hcall)
  | .addRaw sql values, _ => h.addRaw sql values
  | .addSub label _, ⟨hcalls, hpage⟩ =>
      h.addSub (fun s => Call.twin_runAll (.empty s q'.style) hcalls) hpage label
  | .makeDistinct, _ => h.makeDistinct
  | .onWriter, _ => h.onWriter
  | .whereEq _ operand c, hcall => h.addComparison hcall "=" operand c
  | .whereCompare _ _ operand c, ⟨hname, hoperator⟩ => h.whereCompare hname hoperator operand c
  | .whereGroup _ c, hcalls => h.addGroup (Call.twin_runAll h.fresh hcalls) c
  | .whereAll _ c, hpairs => h.whereAll hpairs c
  | .addGroup ⟨_, _⟩ c, hcalls => h.addGroup (Call.twin_runAll (.empty _ _) hcalls) c
  | .onlyIf true _, hcalls => Call.twin_runAll h hcalls
  | .onlyIf false _, _ => h
  | .whereRaw _ values _, _ => h.addFiltered values trivial
  | .whereIn _ operands negated c, hname => h.whereIn hname operands negated c
  | .whereInSub _ _ negated c, ⟨hname, hcalls, hpage⟩ =>
      h.whereInSub (fun s => Call.twin_runAll (.empty s q'.style) hcalls) hpage hname negated c
  | .whereNull _ negated c, hname => h.whereNull hname negated c
  | .whereBetween _ low high negated c, hname => h.whereBetween hname low high negated c
  | .whereSub _ _ _ c, ⟨hname, hoperator, hcalls, hpage⟩ =>
      h.whereSub (fun s => Call.twin_runAll (.empty s q'.style) hcalls) hpage hname hoperator c
  | .whereExists _ negated c, ⟨hcalls, hpage⟩ =>
      h.whereExists (fun s => Call.twin_runAll (.empty s q'.style) hcalls) hpage negated c
  | .whereColumns _ _ _ c, ⟨hname, hoperator, hsecond⟩ =>
      h.whereColumns hname hoperator hsecond c
  | .addJoin kind table _, hcalls =>
      h.addJoin kind table (JoinCall.twin_runAll (.freshJoin q q' table) hcalls)
  | .groupBy _, hcall => h.groupBy (Selection.twin_columns hcall)
  | .groupByRaw sql, _ => h.groupBy (.cons (Column.twin_raw sql) .nil)
  | .having _ _ operand c, ⟨hname, hoperator⟩ => h.having hname hoperator operand c
  | .havingRaw sql values c, _ => h.havingRaw sql values c
  | .havingBetween _ low high, hname => h.havingBetween hname low high
  | .orderBy _ _, hname => h.addOrder hname
  | .orderByText _ direction, hname => h.orderByText hname direction
  | .orderByRaw sql values, _ => h.orderByRaw sql values
  | .setLimit n, _ => h.setLimit n
  | .setOffset n, _ => h.setOffset n
  | .forPage page perPage, _ => h.forPage page perPage
  | .setLock _, hlock => h.setLock hlock
  | .insertRow _, hpairs => h.insertRow hpairs
  | .insertColumns _, hcolumns => h.insertColumns hcolumns
  | .insertValues cells, _ => h.insertValues cells
  | .insertReturning _ sequence, hpairs => h.insertReturning hpairs sequence
  | .setAssignments _, hpairs => h.setAssignments hpairs
  | .makeDelete, _ => h.makeDelete
  | .toAggregate function _, hcolumns => h.toAggregate function hcolumns
  | .toFresh, _ => h.fresh

/-- Several calls keep twins twins. -/
theorem Call.twin_runAll {q q' : Query} (h : q.Twin p q') :
    ∀ {calls : List Call}, Call.PortableAll calls →
      (Call.runAll calls q).Twin p (Call.runAll (Call.restyleAll f calls) q')
  | [], _ => h
  | _ :: _, ⟨hcall, hcalls⟩ => Call.twin_runAll (Call.twin_run h hcall) hcalls

/-- A call on a join keeps twins twins. -/
theorem JoinCall.twin_run {q q' : Query} (h : q.Twin p q') :
    ∀ {call : JoinCall}, call.Portable → (call.run q).Twin p ((call.restyle f).run q')
  | .on _ _ _ c, ⟨hname, hoperator, hsecond⟩ => h.whereColumns hname hoperator hsecond c
  | .group _, hcalls => h.addGroup (JoinCall.twin_runAll h.fresh hcalls) .and
  | .whereEq _ operand c, hname => h.addComparison hname "=" operand c
  | .whereCompare _ _ operand c, ⟨hname, hoperator⟩ => h.whereCompare hname hoperator operand c
  | .whereGroup _ c, hcalls => h.addGroup (Call.twin_runAll h.fresh hcalls) c
  | .whereAll _ c, hpairs => h.whereAll hpairs c
  | .whereNull _ negated, hname => h.whereNull hname negated .and
  | .whereIn _ operands, hname => h.whereIn hname operands false .and
  | .whereRaw _ values, _ => h.addFiltered values trivial

/-- Several calls on a join keep twins twins. -/
theorem JoinCall.twin_runAll {q q' : Query} (h : q.Twin p q') :
    ∀ {calls : List JoinCall}, JoinCall.PortableAll calls →
      (JoinCall.runAll calls q).Twin p (JoinCall.runAll (JoinCall.restyleAll f calls) q')
  | [], _ => h
  | _ :: _, ⟨hcall, hcalls⟩ => JoinCall.twin_runAll (JoinCall.twin_run h hcall) hcalls

/-- Columns that a caller gives are written alike. -/
theorem Selection.twin_column :
    ∀ {c : Selection}, c.Portable → c.column.Twin p (c.restyle f).column
  | .name _, hname => Column.twin_name hname
  | .raw sql, _ => Column.twin_raw sql
  | .sub ⟨style, _⟩ label, ⟨hcalls, hpage⟩ =>
      have hsub := fun s => Call.twin_runAll (.empty s (f style)) hcalls
      (hsub style).column ((hsub style).bounded (hsub _) hpage) label

theorem Selection.twin_columns :
    ∀ {cs : List Selection}, Selection.PortableAll cs →
      List.Forall₂ (Column.Twin p) (Selection.columns cs)
        (Selection.columns (Selection.restyleAll f cs))
  | [], _ => .nil
  | _ :: _, ⟨hc, hcs⟩ => .cons (Selection.twin_column hc) (Selection.twin_columns hcs)

end

/-- **A portable program makes twins**, whatever styles it is run in. -/
theorem Recipe.twin_build : ∀ {r : Recipe}, r.Portable → r.build.Twin p (r.restyle f).build
  | ⟨style, _⟩, ⟨hcalls, _⟩ => Call.twin_runAll f (.empty style (f style)) hcalls

end Programs

/-- Whether a page is bounded is asked of the program run in one style, and holds of the query in
its own: the two runs are twins. -/
lemma Recipe.bounded_build : ∀ {r : Recipe}, r.Portable → r.build.page.Bounded
  | ⟨style, _⟩, ⟨hcalls, hpage⟩ =>
      have hrun := fun s => Call.twin_runAll (p := "") id (.empty s style) hcalls
      (hrun style).bounded (hrun _) hpage

end SqlWeave
