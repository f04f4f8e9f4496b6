import SqlWeave.Proofs.Correspondence.Calls

/-!
# Corresponding queries stay so

One lemma for each way in which an operation changes a query: it appends an item to a clause
together with the values of the item, or it changes the frame.

* `Correspondence.QueryMatch.addPredicate` and the like — **one item and its values**.
* `Correspondence.QueryMatch.addComparison`, `Correspondence.QueryMatch.insertRow` — the operations
  that look at what they are given.
-/

namespace SqlWeave

namespace Bindings

/-- But for unions, values are put behind those that a category has. -/
lemma extend_of_ne (b : Bindings) {c : Category} (h : c ≠ .union) (values : List Value) :
    b.extend c values = b.put c (b.get c ++ values) := by
  rw [extend, if_neg fun hunion => h hunion.1]

lemma extend_nil (b : Bindings) {c : Category} (h : c ≠ .union) : b.extend c [] = b := by
  rw [extend_of_ne b h, List.append_nil]
  cases c <;> rfl

/-- Values that are added one after the other are added together. -/
lemma extend_extend (b : Bindings) {c : Category} (h : c ≠ .union) (vs ws : List Value) :
    (b.extend c vs).extend c ws = b.extend c (vs ++ ws) := by
  simp only [extend_of_ne _ h]
  cases c <;> simp only [put, get, List.append_assoc]

/-- Values of a united statement go before those of the ordering of the union. -/
lemma extend_union {b : Bindings} {us os : List Value} (hunion : b.union = us ++ os)
    (htail : b.unionTail = os.length) (vs : List Value) :
    b.extend .union vs = { b with union := us ++ vs ++ os } := by
  rw [extend]
  split_ifs with hpos
  · have hstart : b.union.length - b.unionTail = us.length := by simp [hunion, htail]
    simp only [hstart]
    rw [hunion, List.take_left, List.drop_left]
    rfl
  · have hnil : os = [] := by
      rw [← List.length_eq_zero_iff]
      have hzero : ¬ 0 < b.unionTail := fun h => hpos ⟨rfl, h⟩
      omega
    subst hnil
    simp [put, get, hunion]

end Bindings

namespace Query

lemma bindAll_nil (q : Query) {c : Category} (h : c ≠ .union) : q.bindAll c [] = q := by
  rw [bindAll, Bindings.extend_nil _ h]
  cases q
  rfl

lemma bindAll_bindAll (q : Query) {c : Category} (h : c ≠ .union) (vs ws : List Value) :
    (q.bindAll c vs).bindAll c ws = q.bindAll c (vs ++ ws) := by
  rw [bindAll, bindAll, bindAll]
  simp only [Bindings.extend_extend _ h]

end Query

namespace Correspondence

variable {C : Correspondence} {s : Style} {whole : Bool} {q q' : Query}
  {vs vs' ws ws' : List Value} {c : Conjunction}

/-! ## Empty queries -/

/-- Queries without clauses. -/
lemma queryMatch_empty (C : Correspondence) (s : Style) (whole : Bool) :
    C.QueryMatch s whole (Query.empty s) (Query.empty s) where
  frame := rfl
  style := rfl
  table := by simp [Query.empty]
  aggregate := by simp [Query.empty]
  lock := by simp [Query.empty]
  sequence := by simp [Query.empty]
  joins := Parts.nil
  predicates := Parts.nil
  havings := Parts.nil
  orders := Parts.nil
  unions := ⟨[], [], [], [], rfl, rfl, rfl, rfl, Parts.nil, Parts.nil⟩
  unionOrders := fun _ => rfl
  columns_isSome := rfl
  columns := fun _ => Parts.nil
  aggregated := fun _ _ => Parts.nil
  groups_isEmpty := rfl
  groups := fun _ => Parts.nil
  insertion :=
    ⟨rfl, by simp [Query.inserted, Query.empty, Insertion.none], fun _ => List.Forall₂.nil⟩
  assignments := List.Forall₂.nil

namespace QueryMatch

/-- A subquery begins empty, in the style of the query around it. -/
lemma freshSub (h : C.QueryMatch s whole q q') (whole' : Bool) :
    C.QueryMatch s whole' q.freshSub q'.freshSub := by
  rw [Query.freshSub, Query.freshSub, h.style, h.style']
  exact queryMatch_empty C s whole'

/-- A join begins with its table. -/
lemma freshJoin (h : C.QueryMatch s whole q q') {table : String} (htable : C.name table)
    (whole' : Bool) : C.QueryMatch s whole' (q.freshJoin table) (q'.freshJoin table) :=
  { h.freshSub whole' with
    frame := congrArg (fun f : Query => { f with table := some (.named table), isJoin := true })
      (h.freshSub whole').frame
    table := by
      intro t ht
      cases ht
      exact htable }

/-- A group begins with the table of the query, so that both runs have the same one. -/
lemma fresh (h : C.QueryMatch s whole q q') (whole' : Bool) :
    C.QueryMatch s whole' q.fresh q'.fresh := by
  have htable : q.table = q'.table := h.same Query.table
  rw [Query.fresh, Query.fresh, h.style, h.style', ← htable, ← h.isJoin_eq]
  exact { queryMatch_empty C s whole' with
    frame := rfl
    table := h.table }

/-! ## Refusals -/

/-- The refusal of a part is taken over. -/
lemma failWith (h : C.QueryMatch s whole q q') {r : Style} {whole' : Bool} {part part' : Query}
    (hpart : C.QueryMatch r whole' part part') :
    C.QueryMatch s whole (q.failWith part.error) (q'.failWith part'.error) := by
  have herror : part.error = part'.error := hpart.same Query.error
  rw [← herror]
  exact { h with frame := congrArg (fun f => f.failWith part.error) h.frame }

lemma fail (h : C.QueryMatch s whole q q') (e : QueryError) :
    C.QueryMatch s whole (q.fail e) (q'.fail e) :=
  { h with frame := congrArg (fun f => f.fail e) h.frame }

/-! ## One item and its values -/

/-- **A predicate with its values.**  They are added to those of the predicates, in the order of the
calls. -/
lemma addPredicate (h : C.QueryMatch s whole q q') {p p' : Predicate}
    (hp : C.PredicateMatch p vs p' vs') :
    C.QueryMatch s whole ((q.bindAll .filter vs).addPredicate p)
      ((q'.bindAll .filter vs').addPredicate p') :=
  { h with predicates := h.predicates.append (Parts.single hp) fun hr => hr.1 }

/-- A predicate without values. -/
lemma addPredicate_plain (h : C.QueryMatch s whole q q') {p p' : Predicate}
    (hp : C.PredicateMatch p [] p' []) :
    C.QueryMatch s whole (q.addPredicate p) (q'.addPredicate p') := by
  have hadd := h.addPredicate hp
  rwa [q.bindAll_nil (by decide), q'.bindAll_nil (by decide)] at hadd

lemma addHaving (h : C.QueryMatch s whole q q') {p p' : Having} (hp : C.HavingMatch p vs p' vs') :
    C.QueryMatch s whole ((q.bindAll .having vs).addHaving p)
      ((q'.bindAll .having vs').addHaving p') :=
  { h with havings := h.havings.append (Parts.single hp) fun hr => hr.1 }

lemma addJoin (h : C.QueryMatch s whole q q') {j j' : Join} (hj : C.JoinMatch j vs j' vs') :
    C.QueryMatch s whole { q.bindAll .join vs with joins := q.joins ++ [j] }
      { q'.bindAll .join vs' with joins := q'.joins ++ [j'] } :=
  { h with joins := h.joins.append (Parts.single hj) fun hr => hr.1 }

/-- Whether there is a union is the same in both runs. -/
lemma hasUnion_eq (h : C.QueryMatch s whole q q') : q'.hasUnion = q.hasUnion := by
  obtain ⟨_, _, _, _, -, -, -, -, harms, -⟩ := h.unions
  rw [Query.hasUnion, Query.hasUnion, harms.isEmpty_eq]

/-- A term of the ordering, of the query or of the union. -/
lemma addOrder (h : C.QueryMatch s whole q q') {o o' : Order} (ho : C.OrderMatch o vs o' vs') :
    C.QueryMatch s whole
      ({ q with bindings := if q.hasUnion then q.bindings.extendUnionOrder vs
          else q.bindings.extend .order vs }.addOrder o)
      ({ q' with bindings := if q'.hasUnion then q'.bindings.extendUnionOrder vs'
          else q'.bindings.extend .order vs' }.addOrder o') := by
  obtain ⟨us, os, us', os', hunion, hunion', htail, htail', harms, horders⟩ := h.unions
  have hempty := h.hasUnion_eq
  have happend := horders.append (Parts.single ho) fun hr => hr.1
  rw [hempty]
  by_cases hu : q.hasUnion = true
  · rw [if_pos hu, if_pos hu, Query.addOrder, Query.addOrder, if_pos (by exact hu),
      if_pos (by exact hempty.trans hu)]
    exact { h with
      unions := ⟨us, os ++ vs, us', os' ++ vs',
        by simp [Bindings.extendUnionOrder, hunion], by simp [Bindings.extendUnionOrder, hunion'],
        by simp [Bindings.extendUnionOrder, htail], by simp [Bindings.extendUnionOrder, htail'],
        harms, happend⟩
      unionOrders := fun hnil => by
        have hnil : q.arms = [] := hnil
        simp [Query.hasUnion, hnil] at hu }
  · rw [if_neg hu, if_neg hu, Query.addOrder, Query.addOrder, if_neg (by exact hu),
      if_neg (by exact hempty ▸ hu)]
    exact { h with orders := h.orders.append (Parts.single ho) fun hr => hr.1 }

lemma addOrder_plain (h : C.QueryMatch s whole q q') {o : Order} (ho : C.OrderMatch o [] o []) :
    C.QueryMatch s whole (q.addOrder o) (q'.addOrder o) := by
  have hbindings : ∀ q : Query, (if q.hasUnion then q.bindings.extendUnionOrder []
      else q.bindings.extend .order []) = q.bindings := by
    intro q
    split_ifs
    · simp [Bindings.extendUnionOrder]
    · exact Bindings.extend_nil _ (by decide)
  have hadd := h.addOrder ho
  rwa [hbindings, hbindings] at hadd

/-- A united statement, whose values go before those of the ordering of the union. -/
lemma addArm (h : C.QueryMatch s whole q q') {arm arm' : Arm} (harm : C.ArmMatch arm vs arm' vs') :
    C.QueryMatch s whole { q.bindAll .union vs with arms := q.arms ++ [arm] }
      { q'.bindAll .union vs' with arms := q'.arms ++ [arm'] } := by
  obtain ⟨us, os, us', os', hunion, hunion', htail, htail', harms, horders⟩ := h.unions
  rw [Query.bindAll, Query.bindAll, Bindings.extend_union hunion htail,
    Bindings.extend_union hunion' htail']
  exact { h with
    unions := ⟨us ++ vs, os, us' ++ vs', os', rfl, rfl, htail, htail',
      harms.append (Parts.single harm) fun hr => hr.1, horders⟩
    unionOrders := fun hnil => by simp at hnil }

/-! ## Comparisons -/

/-- Whether a comparison is a test for null, is refused or has a value depends on whether its
operand is null, and this is the same in both runs. -/
lemma addComparison (h : C.QueryMatch s whole q q') {column operator : String} {p p' : Param}
    (hcolumn : C.name column) (hoperator : C.Plain (Text.lower operator))
    (hp : C.Comparand column p p') :
    C.QueryMatch s whole (q.addComparison column operator p c)
      (q'.addComparison column operator p' c) := by
  obtain ⟨hnull, hoperand⟩ := hp
  simp only [Query.addComparison, ← hnull]
  split_ifs with hisnull
  · exact h.addPredicate_plain (predicate_isNull hcolumn false)
  · exact h.addPredicate_plain (predicate_isNull hcolumn true)
  · exact h.fail _
  · exact h.addPredicate (predicate_compare hcolumn hoperator
      (hoperand (Bool.not_eq_true _ ▸ hisnull)))

/-- An equality is a comparison whose operator every dialect knows. -/
lemma whereEq (h : C.QueryMatch s whole q q') {column : String} {p p' : Param}
    (hcolumn : C.name column) (hp : C.Comparand column p p') :
    C.QueryMatch s whole (q.whereEq column p c) (q'.whereEq column p' c) :=
  h.addComparison hcolumn (plain_neat (by decide)) hp

end QueryMatch

/-- The operator that is written is one that the dialect knows, or the equals sign. -/
lemma plain_comparison {operator : String} {p : Param}
    (h : C.operator (s.comparison operator p).1) :
    C.Plain (Text.lower (s.comparison operator p).1) := by
  rw [Style.comparison] at h ⊢
  split_ifs at h ⊢ with hknown
  · exact C.text_lower hknown h
  · exact plain_neat (t := Text.lower "=") (by decide)

/-- A comparison after what has been made of its operator and its operand. -/
lemma whereCompare_eq (q : Query) (column operator : String) (p : Param) (c : Conjunction) :
    q.whereCompare column operator p c
      = q.addComparison column (q.style.comparison operator p).1 (q.style.comparison operator p).2
        c := by
  rw [Query.whereCompare, Style.comparison]
  split_ifs <;> rfl

/-- A comparison on groups, likewise.  Here a null is bound like any other value. -/
lemma having_eq (q : Query) (column operator : String) (p : Param) (c : Conjunction) :
    q.having column operator p c
      = (q.bind .having (q.style.comparison operator p).2).addHaving (.compare column
        (Text.lower (q.style.comparison operator p).1) (q.style.comparison operator p).2 c) := by
  have hequal : Text.lower "=" = "=" := by decide
  rw [Query.having, Style.comparison]
  split_ifs
  · rfl
  · simp only [hequal]

namespace QueryMatch

/-- The operators of the two runs may differ, if what is made of them and of the operands
corresponds. -/
lemma whereCompare (h : C.QueryMatch s whole q q') {column operator operator' : String}
    {p p' : Param} (hcolumn : C.name column)
    (hp : C.ComparisonMatch (C.Comparand column) (s.comparison operator p)
      (s.comparison operator' p')) :
    C.QueryMatch s whole (q.whereCompare column operator p c)
      (q'.whereCompare column operator' p' c) := by
  obtain ⟨hsame, hoperator, hcomparand⟩ := hp
  rw [whereCompare_eq, whereCompare_eq, h.style, h.style', ← hsame]
  exact h.addComparison hcolumn (plain_comparison hoperator) hcomparand

lemma having (h : C.QueryMatch s whole q q') {column operator operator' : String} {p p' : Param}
    (hcolumn : C.name column) (hp : C.ComparisonMatch C.operand (s.comparison operator p)
      (s.comparison operator' p')) :
    C.QueryMatch s whole (q.having column operator p c) (q'.having column operator' p' c) := by
  obtain ⟨hsame, hoperator, hoperand⟩ := hp
  rw [having_eq, having_eq, h.style, h.style', ← hsame]
  exact h.addHaving (having_compare hcolumn (plain_comparison hoperator) hoperand)

lemma havingBetween (h : C.QueryMatch s whole q q') {column : String} {low high low' high' : Param}
    (hcolumn : C.name column) (hlow : C.operand low low') (hhigh : C.operand high high') :
    C.QueryMatch s whole (q.havingBetween column low high)
      (q'.havingBetween column low' high') := by
  simp only [Query.havingBetween, Query.bind, Query.bindAll_bindAll _ (c := .having) (by decide)]
  exact h.addHaving (having_between hcolumn hlow hhigh)

lemma whereBetween (h : C.QueryMatch s whole q q') {column : String} {low high low' high' : Param}
    {negated : Bool} (hcolumn : C.name column) (hlow : C.operand low low')
    (hhigh : C.operand high high') :
    C.QueryMatch s whole (q.whereBetween column low high negated c)
      (q'.whereBetween column low' high' negated c) := by
  simp only [Query.whereBetween, Query.bind, Query.bindAll_bindAll _ (c := .filter) (by decide)]
  exact h.addPredicate (predicate_between hcolumn negated hlow hhigh)

/-- An operator between two columns is refused if the dialect does not know it, so only a known one
has to correspond. -/
lemma whereColumns (h : C.QueryMatch s whole q q') {first operator second : String}
    (hfirst : C.name first) (hoperator : s.knows operator = true → C.operator operator)
    (hsecond : C.name second) :
    C.QueryMatch s whole (q.whereColumns first operator second c)
      (q'.whereColumns first operator second c) := by
  rw [Query.whereColumns, Query.whereColumns, h.style, h.style']
  split_ifs with hknown
  · exact h.addPredicate_plain (predicate_columns hfirst (C.text_lower hknown (hoperator hknown))
      hsecond)
  · exact h.fail _

/-! ## Groups of predicates -/

/-- A group takes its refusal along in any case, and its values if it has predicates. -/
lemma addGroup (h : C.QueryMatch s whole q q') {r : Style} {whole' : Bool} {inner inner' : Query}
    (hinner : C.QueryMatch r whole' inner inner') :
    C.QueryMatch s whole (q.addGroup inner c) (q'.addGroup inner' c) := by
  simp only [Query.addGroup, ← hinner.predicates.isEmpty_eq]
  split_ifs
  · exact h.failWith hinner
  · exact (h.failWith hinner).addPredicate (predicate_nested hinner.isJoin_eq hinner.predicates)

/-- Equalities one by one, from any corresponding queries. -/
lemma foldl_whereEq {pairs pairs' : List (String × Param)}
    (hpairs : List.Forall₂ (C.PairMatch C.Comparand) pairs pairs') :
    ∀ {q q' : Query}, C.QueryMatch s whole q q' →
      C.QueryMatch s whole (pairs.foldl (fun q pair => q.whereEq pair.1 pair.2 c) q)
        (pairs'.foldl (fun q pair => q.whereEq pair.1 pair.2 c) q') := by
  induction hpairs with
  | nil =>
      intro q q' h
      exact h
  | @cons pair pair' pairs pairs' hpair _ ih =>
      intro q q' h
      obtain ⟨column, p⟩ := pair
      obtain ⟨column', p'⟩ := pair'
      obtain ⟨hsame, hcolumn, hcomparand⟩ := hpair
      simp only at hsame
      subst hsame
      exact ih (h.whereEq hcolumn hcomparand)

/-- Several equalities are made in a group of their own. -/
lemma whereAll (h : C.QueryMatch s whole q q') {pairs pairs' : List (String × Param)}
    (hpairs : List.Forall₂ (C.PairMatch C.Comparand) pairs pairs') :
    C.QueryMatch s whole (q.whereAll pairs c) (q'.whereAll pairs' c) :=
  h.addGroup (foldl_whereEq hpairs (h.fresh false))

/-! ## Subqueries -/

/-- A predicate around a subquery takes the refusal and all values of the subquery along. -/
lemma absorb (h : C.QueryMatch s whole q q') {r : Style} {sub sub' : Query}
    (hsub : C.QueryMatch r true sub sub') {p p' : Predicate}
    (hp : C.PredicateMatch p sub.bindings.flatten p' sub'.bindings.flatten) :
    C.QueryMatch s whole ((q.absorb sub .filter).addPredicate p)
      ((q'.absorb sub' .filter).addPredicate p') :=
  (h.failWith hsub).addPredicate hp

/-! ## Columns and groups -/

/-- New columns with their values.  There may be no such values once a function over the rows has
taken the place of the columns. -/
lemma addColumns (h : C.QueryMatch s whole q q') {cs cs' : List Column}
    (hcs : whole = true → C.Parts C.ColumnMatch cs vs cs' vs')
    (hvalues : whole = true → q.aggregate ≠ none → C.Parts C.ColumnMatch [] vs [] vs') :
    C.QueryMatch s whole ((q.bindAll .select vs).addColumns cs)
      ((q'.bindAll .select vs').addColumns cs') :=
  { h with
    columns_isSome := rfl
    columns := fun hwhole => (h.columns hwhole).append (hcs hwhole) fun hr => hr.1
    aggregated := fun hwhole hsome =>
      (h.aggregated hwhole hsome).append (hvalues hwhole hsome) fun hr => hr.1 }

/-- Columns in place of all others. -/
lemma select (h : C.QueryMatch s whole q q') {cs cs' : List Column}
    (hcs : whole = true → C.Parts C.ColumnMatch cs [] cs' []) :
    C.QueryMatch s whole (q.select cs) (q'.select cs') :=
  { h with
    frame := congrArg (fun f : Query => { f with kind := .select }) h.frame
    columns_isSome := rfl
    columns := hcs
    aggregated := fun _ _ => Parts.nil }

/-- There is no need for the columns themselves where the query is not written as a whole, but there
have to be as many. -/
lemma groupBy (h : C.QueryMatch s whole q q') {cs cs' : List Column}
    (hlength : cs.length = cs'.length)
    (hcs : whole = true → C.Parts C.ColumnMatch cs [] cs' []) :
    C.QueryMatch s whole (q.groupBy cs) (q'.groupBy cs') :=
  { h with
    groups_isEmpty := by
      have hempty := h.groups_isEmpty
      rw [Bool.eq_iff_iff, List.isEmpty_iff_length_eq_zero, List.isEmpty_iff_length_eq_zero]
        at hempty ⊢
      simp only [Query.groupBy, List.length_append, hlength]
      omega
    groups := fun hwhole => (h.groups hwhole).append (hcs hwhole) fun hr => hr.1 }

/-- A function over the rows.  The values of the columns go, and those of an ordering go with it. -/
lemma toAggregate (h : C.QueryMatch s whole q q') {function : String} {columns : List String}
    (ha : C.AggregateOk ⟨function, columns⟩) :
    C.QueryMatch s whole (q.toAggregate function columns) (q'.toAggregate function columns) := by
  have hframe := congrArg (fun f : Query =>
    { f with kind := .select, aggregate := some ⟨function, columns⟩ }) h.frame
  have haggregate : ∀ a ∈ some (⟨function, columns⟩ : Aggregate), C.AggregateOk a := by
    intro a hmem
    cases hmem
    exact ha
  rw [Query.toAggregate, Query.toAggregate]
  simp only [← h.groups_isEmpty]
  split_ifs
  · exact { h with
      frame := hframe
      aggregate := haggregate
      orders := Parts.nil
      columns_isSome := rfl
      columns := fun _ => Parts.nil
      aggregated := fun _ _ => Parts.nil }
  · exact { h with
      frame := hframe
      aggregate := haggregate
      columns_isSome := rfl
      columns := fun _ => Parts.nil
      aggregated := fun _ _ => Parts.nil }

/-! ## The frame -/

/-- The table is part of the frame. -/
lemma withTable (h : C.QueryMatch s whole q q') {t : Table} (ht : C.TableOk t) :
    C.QueryMatch s whole { q with table := some t } { q' with table := some t } :=
  { h with
    frame := congrArg (fun f : Query => { f with table := some t }) h.frame
    table := by
      intro t' hmem
      cases hmem
      exact ht }

lemma setLock (h : C.QueryMatch s whole q q') {l : Lock} (hl : C.LockOk l) :
    C.QueryMatch s whole (q.setLock l) (q'.setLock l) :=
  { h with
    frame := congrArg (fun f => f.setLock l) h.frame
    lock := by
      intro l' hmem
      cases hmem
      exact hl }

/-- A limit of the query, or of the union if there is one. -/
lemma setLimit (h : C.QueryMatch s whole q q') (n : UInt64) :
    C.QueryMatch s whole (q.setLimit n) (q'.setLimit n) := by
  rw [Query.setLimit, Query.setLimit, h.hasUnion_eq]
  split_ifs
  · exact { h with
      frame := congrArg
        (fun f : Query => { f with unionPage := { f.unionPage with limit := some n } }) h.frame }
  · exact { h with
      frame := congrArg (fun f : Query => { f with page := { f.page with limit := some n } })
        h.frame }

lemma setOffset (h : C.QueryMatch s whole q q') (n : UInt64) :
    C.QueryMatch s whole (q.setOffset n) (q'.setOffset n) := by
  rw [Query.setOffset, Query.setOffset, h.hasUnion_eq]
  split_ifs
  · exact { h with
      frame := congrArg (fun f : Query =>
        { f with unionPage := { f.unionPage with offset := some n } }) h.frame }
  · exact { h with
      frame := congrArg (fun f : Query => { f with page := { f.page with offset := some n } })
        h.frame }

end QueryMatch

end Correspondence

end SqlWeave
