import SqlWeave.Proofs.CallOrder.Agreement

/-!
# Runs on queries that agree

What a call makes of its own clause depends on that clause alone, and it leaves the others as they
are.  So the same call on two queries keeps whatever agreement there is between them.

* `Family.Spares` — what the steps of a family leave alone.
* `Query.Alike.edit` — steps of one family on both sides, and from it one lemma for each operation.
* `Call.alike_run` — a call on both sides.
-/

namespace SqlWeave

/-! ## What the steps of a family leave alone -/

/-- Everything but the clause of the family is as before. -/
structure Family.Spares (f : Family) (q q' : Query) : Prop where
  style : q'.style = q.style
  isJoin : q'.isJoin = q.isJoin
  aggregate : q'.aggregate = q.aggregate
  tidy : q'.bindings.Tidy
  hasUnion : f ≠ .unions → q'.hasUnion = q.hasUnion
  keepsUnion : q.hasUnion = true → q'.hasUnion = true
  view : ∀ g, g ≠ f → g.view q' = g.view q

namespace Family

variable {f : Family} {q q' q₁ : Query}

namespace Spares

lemma refl (f : Family) (ht : q.bindings.Tidy) : f.Spares q q :=
  ⟨rfl, rfl, rfl, ht, fun _ => rfl, id, fun _ _ => rfl⟩

/-- What both of two steps leave alone, both together leave alone. -/
lemma trans (h : f.Spares q q') (h' : f.Spares q' q₁) : f.Spares q q₁ where
  style := h'.style.trans h.style
  isJoin := h'.isJoin.trans h.isJoin
  aggregate := h'.aggregate.trans h.aggregate
  tidy := h'.tidy
  hasUnion hf := (h'.hasUnion hf).trans (h.hasUnion hf)
  keepsUnion hunion := h'.keepsUnion (h.keepsUnion hunion)
  view g hne := (h'.view g hne).trans (h.view g hne)

end Spares

/-- No step puts values of the union's ordering where there are none to share a list with. -/
lemma Step.tidy (h : f.Step q q') (ht : q.bindings.Tidy) : q'.bindings.Tidy := by
  cases h with
  | bindUnionOrder _ values => exact (ht.extendUnionOrder values).1
  | addArm _ arm all => exact (ht.extend_union _).1
  | _ => exact ht

/-- **A step changes the clause of its family and no other.**  The arms and the ordering of a union
keep their values in one list, so for these two the values have to be tidy. -/
lemma Step.view_eq {g : Family} (h : f.Step q q') (ht : q.bindings.Tidy) (hne : g ≠ f) :
    g.view q' = g.view q := by
  cases h with
  | bindUnionOrder _ values =>
      cases g with
      | orders => exact absurd rfl hne
      | unions => exact congrArg (Prod.mk _) (ht.extendUnionOrder _).2.1
      | _ => rfl
  | addArm _ arm all =>
      obtain ⟨us, hus⟩ := q.bindings.exists_extend_union arm.bindings.flatten
      have hbindings : (q.addArm arm all).bindings = { q.bindings with union := us } := hus
      cases g with
      | unions => exact absurd rfl hne
      | orders =>
          have horder : (q.addArm arm all).bindings.order = q.bindings.order := by rw [hbindings]
          have horders : (q.addArm arm all).bindings.orderValues = q.bindings.orderValues :=
            (ht.extend_union _).2.2
          simp only [view, horder, horders]
          rfl
      | columns | joins | predicates | havings => simp only [view, hbindings]; rfl
      | _ => rfl
  | _ => cases g <;> first | rfl | exact absurd rfl hne

/-- One step: the clause of the family may change, and a union is never taken away. -/
lemma Step.spares (h : f.Step q q') (ht : q.bindings.Tidy) : f.Spares q q' where
  style := congrArg Prod.fst h.origin_eq
  isJoin := congrArg Prod.snd h.origin_eq
  aggregate := h.aggregate_eq
  tidy := h.tidy ht
  hasUnion hf := by cases h <;> first | rfl | exact absurd rfl hf
  keepsUnion hunion := by
    cases h with
    | addArm _ arm all => exact q.hasUnion_addArm arm all
    | _ => exact hunion
  view _ hne := h.view_eq ht hne

/-- **The steps of a family spare all other clauses.** -/
lemma Steps.spares (h : f.Steps q q') (ht : q.bindings.Tidy) : f.Spares q q' :=
  h.invariant (fun hstep hspares => hspares.trans (hstep.spares hspares.tidy)) (.refl f ht)

end Family

/-! ## The same operation on both sides -/

namespace Query.Alike

variable {S : Family → Prop} {q q' : Query}

/-- Steps of one family on both sides, if they make the same of their own clause. -/
lemma edit {f : Family} {q₁ q₁' : Query} (h : q.Alike S q') (hsteps : f.Steps q q₁)
    (hsteps' : f.Steps q' q₁') (hunion : f = .unions → q₁.hasUnion = q₁'.hasUnion)
    (hown : S f → f.view q₁ = f.view q₁') : q₁.Alike S q₁' := by
  have hs := hsteps.spares h.tidy
  have hs' := hsteps'.spares h.tidy'
  refine {
    style := by rw [hs.style, hs'.style, h.style]
    isJoin := by rw [hs.isJoin, hs'.isJoin, h.isJoin]
    aggregate := by rw [hs.aggregate, hs'.aggregate, h.aggregate]
    tidy := hs.tidy
    tidy' := hs'.tidy
    united := fun hS => ?_
    view := fun g hg => ?_ }
  · by_cases hf : f = .unions
    · exact hunion hf
    · rw [hs.hasUnion hf, hs'.hasUnion hf, h.united hS]
  · by_cases hf : g = f
    · subst hf
      exact hown hg
    · rw [hs.view g hf, hs'.view g hf, h.view g hg]

/-- Refusals are not compared. -/
lemma failWith (h : q.Alike S q') (e e' : Option QueryError) :
    (q.failWith e).Alike S (q'.failWith e') :=
  h.edit (.single (.fail .writer q e)) (.single (.fail .writer q' e')) nofun fun hS =>
    h.view .writer hS

/-! ### Columns -/

lemma bindSelect (h : q.Alike S q') (values : List Value) :
    (q.bindAll .select values).Alike S (q'.bindAll .select values) := by
  refine h.edit (.single (.bindSelect q values)) (.single (.bindSelect q' values)) nofun
    fun hS => ?_
  obtain ⟨hkind, hcolumns, hvalues⟩ := h.columns hS
  exact congrArg₂ Prod.mk hkind (congrArg₂ Prod.mk hcolumns (congrArg (· ++ values) hvalues))

/-- The columns are compared by what they are written as, since a subquery among them may remember
another table. -/
lemma select (h : q.Alike S q') {columns columns' : List Column}
    (hc : columns.map Column.writing = columns'.map Column.writing) :
    (q.select columns).Alike S (q'.select columns') := by
  refine h.edit (.single (.select q columns)) (.single (.select q' columns')) nofun fun _ => ?_
  simp only [Family.view, Query.select, Option.map_some, hc]
  rfl

lemma addColumns (h : q.Alike S q') {columns columns' : List Column}
    (hc : columns.map Column.writing = columns'.map Column.writing) :
    (q.addColumns columns).Alike S (q'.addColumns columns') := by
  refine h.edit (.single (.addColumns q columns)) (.single (.addColumns q' columns')) nofun
    fun hS => ?_
  obtain ⟨hkind, hcolumns, hvalues⟩ := h.columns hS
  have hbefore : (q.columns.getD []).map Column.writing
      = (q'.columns.getD []).map Column.writing := by
    cases hq : q.columns <;> cases hq' : q'.columns <;> simp_all
  simp only [Family.view, Query.addColumns, Option.map_some, List.map_append, hbefore, hc, hkind,
    hvalues]

/-! ### Predicates -/

lemma bindFilter (h : q.Alike S q') (values : List Value) :
    (q.bindAll .filter values).Alike S (q'.bindAll .filter values) := by
  refine h.edit (.single (.bindFilter q values)) (.single (.bindFilter q' values)) nofun
    fun hS => ?_
  obtain ⟨hpredicates, hvalues⟩ := h.predicates hS
  exact congrArg₂ Prod.mk hpredicates (congrArg (· ++ values) hvalues)

/-- **A predicate that is written alike on both sides.**  All conditions come to this one. -/
lemma addPredicate (h : q.Alike S q') {p p' : Predicate} (hp : p.writing = p'.writing) :
    (q.addPredicate p).Alike S (q'.addPredicate p') := by
  refine h.edit (.single (.addPredicate q p)) (.single (.addPredicate q' p')) nofun fun hS => ?_
  obtain ⟨hpredicates, hvalues⟩ := h.predicates hS
  simp only [Family.view, Query.addPredicate, List.map_append, List.map_cons, List.map_nil,
    hpredicates, hvalues, hp]

/-- The test for null, the refusal and the comparison are decided by the arguments, which are the
same. -/
lemma addComparison (h : q.Alike S q') (column operator : String) (operand : Param)
    (c : Conjunction) : (q.addComparison column operator operand c).Alike S
      (q'.addComparison column operator operand c) := by
  simp only [Query.addComparison]
  split_ifs
  · exact h.addPredicate rfl
  · exact h.addPredicate rfl
  · exact h.failWith _ _
  · exact (h.bindFilter _).addPredicate rfl

lemma whereEq (h : q.Alike S q') (column : String) (operand : Param) (c : Conjunction) :
    (q.whereEq column operand c).Alike S (q'.whereEq column operand c) :=
  h.addComparison column "=" operand c

/-- Whether the operator is known is a matter of the style, on which the queries agree. -/
lemma whereCompare (h : q.Alike S q') (column operator : String) (operand : Param)
    (c : Conjunction) : (q.whereCompare column operator operand c).Alike S
      (q'.whereCompare column operator operand c) := by
  rw [Query.whereCompare, Query.whereCompare, h.style]
  split_ifs <;> exact h.addComparison ..

lemma whereColumns (h : q.Alike S q') (first operator second : String) (c : Conjunction) :
    (q.whereColumns first operator second c).Alike S
      (q'.whereColumns first operator second c) := by
  rw [Query.whereColumns, Query.whereColumns, h.style]
  split_ifs
  · exact h.addPredicate rfl
  · exact h.failWith _ _

/-- Of a group, only the predicates are written and only their values are taken. -/
lemma addGroup (h : q.Alike S q') {inner inner' : Query} (hi : inner.SameButTable inner')
    (c : Conjunction) : (q.addGroup inner c).Alike S (q'.addGroup inner' c) := by
  obtain ⟨hpredicates, hvalues⟩ := hi.predicates (by decide)
  have hempty : inner.predicates.isEmpty = inner'.predicates.isEmpty := by
    rw [← List.isEmpty_map (f := Predicate.writing), hpredicates, List.isEmpty_map]
  have hwriting : (Predicate.nested inner c).writing = (Predicate.nested inner' c).writing := by
    funext s
    simp only [Predicate.writing, Style.writePredicate, Style.predicateText,
      Style.ownPredicateTexts_eq, hi.isJoin, Predicate.conjunction]
    rw [show inner.predicates.mapM s.writePredicate = _ from mapM_eq_of_writings hpredicates s]
    rfl
  simp only [Query.addGroup, hempty]
  split_ifs
  · exact h.failWith _ _
  · have hget : inner.bindings.get .filter = inner'.bindings.get .filter := hvalues
    rw [hget]
    exact ((h.failWith _ _).bindFilter _).addPredicate hwriting

/-- A subquery brings its refusal and its values. -/
lemma addSubquery (h : q.Alike S q') {sub sub' : Query} (hs : sub.Same sub')
    {p p' : Predicate} (hp : p.writing = p'.writing) :
    ((q.absorb sub .filter).addPredicate p).Alike S ((q'.absorb sub' .filter).addPredicate p') := by
  rw [absorb, absorb, hs.butTable.flatten_eq]
  exact ((h.failWith _ _).bindFilter _).addPredicate hp

/-- A subquery is built only where the operator is known. -/
lemma whereSub (h : q.Alike S q') (column operator : String) {build build' : Query → Query}
    (hs : (build q.freshSub).Same (build' q'.freshSub)) (c : Conjunction) :
    (q.whereSub column operator build c).Alike S (q'.whereSub column operator build' c) := by
  have hwriting : (Predicate.compareSub column (Text.lower operator) (build q.freshSub) c).writing
      = (Predicate.compareSub column (Text.lower operator) (build' q'.freshSub) c).writing := by
    funext s
    simp only [Predicate.writing, Style.writePredicate, Style.predicateText, hs.selectText_eq]
    rfl
  rw [Query.whereSub, Query.whereSub, h.style]
  split_ifs
  · exact h.addSubquery hs hwriting
  · exact h.failWith _ _

lemma whereInSub (h : q.Alike S q') (column : String) {build build' : Query → Query}
    (hs : (build q.freshSub).Same (build' q'.freshSub)) (negated : Bool) (c : Conjunction) :
    (q.whereInSub column build negated c).Alike S (q'.whereInSub column build' negated c) := by
  refine h.addSubquery hs ?_
  funext s
  simp only [Predicate.writing, Style.writePredicate, Style.predicateText, hs.selectText_eq]
  rfl

lemma whereExists (h : q.Alike S q') {build build' : Query → Query}
    (hs : (build q.freshSub).Same (build' q'.freshSub)) (negated : Bool) (c : Conjunction) :
    (q.whereExists build negated c).Alike S (q'.whereExists build' negated c) := by
  refine h.addSubquery hs ?_
  funext s
  simp only [Predicate.writing, Style.writePredicate, Style.predicateText, hs.selectText_eq]
  rfl

/-- A subquery as a column: its values come before it. -/
lemma addSub (h : q.Alike S q') (label : String) {build build' : Query → Query}
    (hs : (build q.freshSub).Same (build' q'.freshSub)) :
    (q.addSub label build).Alike S (q'.addSub label build') := by
  have hwriting : (Column.sub (build q.freshSub) label).writing
      = (Column.sub (build' q'.freshSub) label).writing := by
    funext s
    simp only [Column.writing, Style.columnText, hs.selectText_eq]
  rw [Query.addSub, Query.addSub, absorb, absorb, hs.butTable.flatten_eq]
  exact ((h.failWith _ _).bindSelect _).addColumns (by rw [List.map_singleton, List.map_singleton,
    hwriting])

/-! ### Joins and unions -/

/-- The predicates of a join are written and its table is not, so they need not agree in that. -/
lemma addJoin (h : q.Alike S q') (kind : JoinKind) (table : String) {build build' : Query → Query}
    (hi : (build (q.freshJoin table)).SameButTable (build' (q'.freshJoin table))) :
    (q.addJoin kind table build).Alike S (q'.addJoin kind table build') := by
  refine h.edit
    (.tail (.tail (.single (.fail _ q _)) (.bindJoin _ _)) (.addJoin _ _))
    (.tail (.tail (.single (.fail _ q' _)) (.bindJoin _ _)) (.addJoin _ _)) nofun fun hS => ?_
  obtain ⟨hjoins, hvalues⟩ := h.joins hS
  have hwriting : Join.writing ⟨kind, .named table, build (q.freshJoin table)⟩
      = Join.writing ⟨kind, .named table, build' (q'.freshJoin table)⟩ := by
    funext s
    simp only [Join.writing, Style.joinText, Style.ownPredicateTexts_eq, hi.isJoin]
    rw [show (build (q.freshJoin table)).predicates.mapM s.writePredicate = _ from
      mapM_eq_of_writings (hi.predicates (by decide)).1 s]
    rfl
  have hall : q.bindings.join ++ (build (q.freshJoin table)).bindings.flatten
      = q'.bindings.join ++ (build' (q'.freshJoin table)).bindings.flatten := by
    rw [hvalues, hi.flatten_eq]
  have hlist :
      List.map Join.writing (q.joins ++ [⟨kind, .named table, build (q.freshJoin table)⟩])
        = List.map Join.writing
          (q'.joins ++ [⟨kind, .named table, build' (q'.freshJoin table)⟩]) := by
    rw [List.map_append, List.map_append, hjoins, List.map_singleton, List.map_singleton, hwriting]
  exact congrArg₂ Prod.mk hlist hall

/-- An arm is written at once, so the two have to agree in every clause. -/
lemma addArm (h : q.Alike S q') {arm arm' : Query} (ha : arm.Same arm') (all : Bool) :
    (q.addArm arm all).Alike S (q'.addArm arm' all) := by
  refine h.edit (.single (.addArm q arm all)) (.single (.addArm q' arm' all))
    (fun _ => ?_) fun hS => ?_
  · rw [hasUnion_addArm, hasUnion_addArm]
  obtain ⟨harms, hvalues⟩ := h.unions hS
  have hwriting : Arm.writing ⟨arm, all⟩ = Arm.writing ⟨arm', all⟩ := by
    funext s
    simp only [Arm.writing, Style.armText, ha.selectText_eq]
  have hall : (q.addArm arm all).bindings.armValues = (q'.addArm arm' all).bindings.armValues := by
    have hshares : q.bindings.armValues ++ arm.bindings.flatten
        = q'.bindings.armValues ++ arm'.bindings.flatten := by
      rw [hvalues, ha.butTable.flatten_eq]
    exact (h.tidy.extend_union _).2.1.trans (hshares.trans (h.tidy'.extend_union _).2.1.symm)
  have hlist : List.map Arm.writing (q.arms ++ [⟨arm, all⟩])
      = List.map Arm.writing (q'.arms ++ [⟨arm', all⟩]) := by
    rw [List.map_append, List.map_append, harms, List.map_singleton, List.map_singleton, hwriting]
  exact congrArg₂ Prod.mk hlist hall

/-! ### Groups of rows -/

/-- The groups of rows are columns without values of their own. -/
lemma groupBy (h : q.Alike S q') {columns columns' : List Column}
    (hc : columns.map Column.writing = columns'.map Column.writing) :
    (q.groupBy columns).Alike S (q'.groupBy columns') := by
  refine h.edit (.single (.groupBy q columns)) (.single (.groupBy q' columns')) nofun fun hS => ?_
  have hgroups : q.groups.map Column.writing = q'.groups.map Column.writing := h.view .groups hS
  simp only [Family.view, Query.groupBy, List.map_append, hgroups, hc]

lemma bindHaving (h : q.Alike S q') (values : List Value) :
    (q.bindAll .having values).Alike S (q'.bindAll .having values) := by
  refine h.edit (.single (.bindHaving q values)) (.single (.bindHaving q' values)) nofun
    fun hS => ?_
  obtain ⟨hhavings, hvalues⟩ := h.havings hS
  exact congrArg₂ Prod.mk hhavings (congrArg (· ++ values) hvalues)

/-- The predicates on groups hold no query, so they are compared as they are. -/
lemma addHaving (h : q.Alike S q') (p : Having) : (q.addHaving p).Alike S (q'.addHaving p) := by
  refine h.edit (.single (.addHaving q p)) (.single (.addHaving q' p)) nofun fun hS => ?_
  obtain ⟨hhavings, hvalues⟩ := h.havings hS
  exact congrArg₂ Prod.mk (congrArg (· ++ [p]) hhavings) hvalues

/-- A comparison on groups, where the operator is known. -/
lemma having (h : q.Alike S q') (column operator : String) (operand : Param) (c : Conjunction) :
    (q.having column operator operand c).Alike S (q'.having column operator operand c) := by
  rw [Query.having, Query.having, h.style]
  split_ifs <;> exact (h.bindHaving _).addHaving _

/-! ### Order and pages -/

/-- A term goes to the ordering of the query or to that of the union; agreement on the ordering
includes that there is a union. -/
lemma addOrder (h : q.Alike S q') (o : Order) : (q.addOrder o).Alike S (q'.addOrder o) := by
  refine h.edit (.addOrder q o) (.addOrder q' o) nofun fun hS => ?_
  obtain ⟨⟨horders, horder⟩, hunionOrders, horderValues⟩ := h.orders hS
  rw [Query.addOrder, Query.addOrder, h.united (Or.inl hS)]
  split_ifs <;> simp only [Family.view, horders, horder, hunionOrders, horderValues]

/-- A direction that cannot be read refuses the term on both sides. -/
lemma orderByText (h : q.Alike S q') (column direction : String) :
    (q.orderByText column direction).Alike S (q'.orderByText column direction) := by
  unfold Query.orderByText
  split
  · exact h.addOrder _
  · exact h.failWith _ _

/-- The values of a term go where the term goes. -/
lemma bindOrder (h : q.Alike S q') (values : List Value) :
    (q.bindOrder values).Alike S (q'.bindOrder values) := by
  refine h.edit (.bindOrder q values) (.bindOrder q' values) nofun fun hS => ?_
  obtain ⟨⟨horders, horder⟩, hunionOrders, horderValues⟩ := h.orders hS
  rw [Query.bindOrder, Query.bindOrder, h.united (Or.inl hS)]
  split_ifs
  · have hvalues : (q.bindings.extendUnionOrder values).orderValues
        = (q'.bindings.extendUnionOrder values).orderValues := by
      rw [(h.tidy.extendUnionOrder values).2.2, (h.tidy'.extendUnionOrder values).2.2, horderValues]
    exact congrArg₂ Prod.mk (congrArg₂ Prod.mk horders horder)
      (congrArg₂ Prod.mk hunionOrders hvalues)
  · exact congrArg₂ Prod.mk (congrArg₂ Prod.mk horders (congrArg (· ++ values) horder))
      (congrArg₂ Prod.mk hunionOrders horderValues)

/-- A limit goes to the page of the query or to that of the union. -/
lemma setLimit (h : q.Alike S q') (n : UInt64) : (q.setLimit n).Alike S (q'.setLimit n) := by
  refine h.edit (.setLimit q n) (.setLimit q' n) nofun fun hS => ?_
  obtain ⟨hpage, hunionPage⟩ := h.paging hS
  rw [Query.setLimit, Query.setLimit, h.united (Or.inr hS)]
  split_ifs <;> simp only [Family.view, hpage, hunionPage]

lemma setOffset (h : q.Alike S q') (n : UInt64) : (q.setOffset n).Alike S (q'.setOffset n) := by
  refine h.edit (.setOffset q n) (.setOffset q' n) nofun fun hS => ?_
  obtain ⟨hpage, hunionPage⟩ := h.paging hS
  rw [Query.setOffset, Query.setOffset, h.united (Or.inr hS)]
  split_ifs <;> simp only [Family.view, hpage, hunionPage]

/-! ### Other clauses -/

/-- The table is a clause of its own. -/
lemma setTable (h : q.Alike S q') (t : Table) :
    ({ q with table := some t } : Query).Alike S { q' with table := some t } :=
  h.edit (.single (.setTable q t)) (.single (.setTable q' t)) nofun fun _ => rfl

lemma makeDistinct (h : q.Alike S q') : q.makeDistinct.Alike S q'.makeDistinct :=
  h.edit (.single (.makeDistinct q)) (.single (.makeDistinct q')) nofun fun _ => rfl

lemma setLock (h : q.Alike S q') (l : Lock) : (q.setLock l).Alike S (q'.setLock l) :=
  h.edit (.single (.setLock q l)) (.single (.setLock q' l)) nofun fun _ => rfl

lemma onWriter (h : q.Alike S q') : q.onWriter.Alike S q'.onWriter :=
  h.edit (.single (.onWriter q)) (.single (.onWriter q')) nofun fun _ => rfl

/-! ### Changes, functions over rows, and new queries -/

/-- A change keeps the clauses of the select that it was begun as. -/
lemma change (h : q.Alike S q') (kind : StatementKind) (i i' : Option Insertion)
    (a a' : List (String × Param)) (n n' : Option String) :
    ({ q with kind := kind, insertion := i, assignments := a, sequence := n } : Query).Alike S
      { q' with kind := kind, insertion := i', assignments := a', sequence := n' } :=
  { h with
    view := fun f hf => by
      cases f with
      | columns =>
          obtain ⟨-, hcolumns, hvalues⟩ := h.columns hf
          exact congrArg₂ (fun columns values => (kind, columns, values)) hcolumns hvalues
      | _ => exact h.view _ hf }

/-- A row that is refused leaves its refusal, which is in no clause; else it makes an insertion. -/
lemma insertRow (h : q.Alike S q') (pairs : List (String × Param)) :
    (q.insertRow pairs).Alike S (q'.insertRow pairs) := by
  have hrow : ∀ q : Query, ∃ i e, q.insertRow pairs = (q.setInsertion i).failWith e := by
    intro q
    have hnone : ∀ q : Query, q.failWith none = q := by
      rintro ⟨⟩
      simp only [Query.failWith, Option.or_none]
    simp only [Query.insertRow]
    split_ifs
    · exact ⟨_, none, (hnone _).symm⟩
    · split
      · exact ⟨_, _, rfl⟩
      · exact ⟨_, none, (hnone _).symm⟩
  obtain ⟨i, e, hq⟩ := hrow q
  obtain ⟨i', e', hq'⟩ := hrow q'
  rw [hq, hq']
  exact (h.change .insert _ _ _ _ _ _).failWith e e'

/-- The column whose value is to be reported is in no clause. -/
lemma setSequence (h : q.Alike S q') (n n' : Option String) :
    ({ q with sequence := n } : Query).Alike S { q' with sequence := n' } :=
  { h with view := fun f hf => by cases f <;> exact h.view _ hf }

/-- A function over the rows of a query looks at its groups before it drops its ordering. -/
lemma toAggregate (h : q.Alike S q') (hS : S .orders → S .groups) (function : String)
    (columns : List String) :
    (q.toAggregate function columns).Alike S (q'.toAggregate function columns) := by
  -- Both branches as one record, since the view of a clause is taken field by field.
  have hform : ∀ q : Query, q.toAggregate function columns = { q with
      kind := .select, columns := none, aggregate := some ⟨function, columns⟩
      orders := if q.groups.isEmpty then [] else q.orders
      bindings := { q.bindings with
        select := [], order := if q.groups.isEmpty then [] else q.bindings.order } } := by
    intro q
    simp only [Query.toAggregate]
    split_ifs <;> rfl
  rw [hform, hform]
  exact { h with
    aggregate := rfl
    view := fun f hf => by
      cases f with
      | columns => rfl
      -- Whether the ordering is dropped depends on the groups, hence `hS`.
      | orders =>
          obtain ⟨⟨horders, horder⟩, hunionOrders, horderValues⟩ := h.orders hf
          have hgroups : q.groups.map Column.writing = q'.groups.map Column.writing :=
            h.view .groups (hS hf)
          have hempty : q.groups.isEmpty = q'.groups.isEmpty := by
            rw [← List.isEmpty_map (f := Column.writing), hgroups, List.isEmpty_map]
          simp only [Family.view, hempty, horders, horder, hunionOrders]
          exact congrArg (Prod.mk _) (congrArg (Prod.mk _) horderValues)
      | _ => exact h.view _ hf }

/-- A subquery is begun with the style alone. -/
lemma freshSub (h : q.Alike S q') : q.freshSub.Same q'.freshSub := by
  rw [Query.freshSub, Query.freshSub, h.style]
  exact .refl _ (Nat.le_refl 0)

lemma freshJoin (h : q.Alike S q') (table : String) :
    (q.freshJoin table).Same (q'.freshJoin table) := by
  rw [Query.freshJoin, Query.freshJoin, Query.freshSub, Query.freshSub, h.style]
  exact .refl _ (Nat.le_refl 0)

/-- Only the table of a query is copied. -/
lemma fresh {S' : Family → Prop} (h : q.Alike S q') (hS : S' .table → S .table) :
    q.fresh.Alike S' q'.fresh where
  style := h.style
  isJoin := h.isJoin
  aggregate := rfl
  tidy := Nat.le_refl 0
  tidy' := Nat.le_refl 0
  united _ := rfl
  view f hf := by
    cases f with
    | table => exact h.view .table (hS hf)
    | _ => rfl

end Query.Alike

/-! ## A run on both sides -/

/-- Several comparisons go one by one into a copy of each query, which may have different tables. -/
lemma Query.Alike.whereAll {S : Family → Prop} {q q' : Query} (h : q.Alike S q')
    (pairs : List (String × Param)) (c : Conjunction) :
    (q.whereAll pairs c).Alike S (q'.whereAll pairs c) := by
  have hfold : ∀ {inner inner' : Query}, inner.SameButTable inner' →
      (pairs.foldl (fun q pair => q.whereEq pair.1 pair.2 c) inner).SameButTable
        (pairs.foldl (fun q pair => q.whereEq pair.1 pair.2 c) inner') := by
    induction pairs with
    | nil => exact id
    | cons pair pairs ih => exact fun hinner => ih (hinner.whereEq pair.1 pair.2 c)
  exact h.addGroup (hfold (h.fresh fun hne => absurd rfl hne)) c

mutual

/-- **One call.**  A function over the rows of a query is the one call that looks at another clause
than its own. -/
theorem Call.alike_run : ∀ (call : Call) {S : Family → Prop} {q q' : Query},
    (call.family? = none → S .orders → S .groups) → q.Alike S q' →
      (call.run q).Alike S (call.run q')
  | .onlyIf true calls, S, _, _, hS, h => by
      -- Calls without a clause in common count as a call without a clause, so `hS` is known for
      -- all.
      refine Call.alike_runAll calls (fun call hcall hnone => ?_) h
      cases hcommon : Call.commonFamily? calls with
      | none => exact hS hcommon
      | some f => exact absurd (Call.family?_of_mem hcommon call hcall) (by simp [hnone])
  | .onlyIf false _, _, _, _, _, h => h
  | .onTable name, _, _, _, _, h => h.setTable (.named name)
  | .onRaw sql, _, _, _, _, h => h.setTable (.raw sql)
  | .select _, _, _, _, _, h => h.select rfl
  | .addColumns _, _, _, _, _, h => h.addColumns rfl
  | .addRaw sql values, _, _, _, _, h => (h.addColumns rfl).bindSelect values
  | .addSub label calls, _, _, _, _, h =>
      h.addSub label (Call.alike_runAll calls (fun _ _ _ _ => trivial) h.freshSub)
  | .makeDistinct, _, _, _, _, h => h.makeDistinct
  | .onWriter, _, _, _, _, h => h.onWriter
  | .whereEq column operand c, _, _, _, _, h => h.whereEq column operand c
  | .whereCompare column operator operand c, _, _, _, _, h =>
      h.whereCompare column operator operand c
  | .whereGroup calls c, _, q, q', _, h =>
      h.addGroup (Call.alike_runAll calls (fun _ _ _ _ => by decide)
        (h.fresh fun hne => absurd rfl hne)) c
  | .whereAll pairs c, _, _, _, _, h => h.whereAll pairs c
  | .addGroup recipe c, _, _, _, _, h => h.addGroup recipe.alike_build.butTable c
  | .whereRaw sql values c, _, _, _, _, h => (h.bindFilter values).addPredicate rfl
  | .whereIn column operands negated c, _, _, _, _, h => (h.bindFilter _).addPredicate rfl
  | .whereInSub column calls negated c, _, _, _, _, h =>
      h.whereInSub column (Call.alike_runAll calls (fun _ _ _ _ => trivial) h.freshSub) negated c
  | .whereNull column negated c, _, _, _, _, h => h.addPredicate rfl
  | .whereBetween column low high negated c, _, _, _, _, h =>
      ((h.bindFilter _).bindFilter _).addPredicate rfl
  | .whereSub column operator calls c, _, _, _, _, h =>
      h.whereSub column operator (Call.alike_runAll calls (fun _ _ _ _ => trivial) h.freshSub) c
  | .whereExists calls negated c, _, _, _, _, h =>
      h.whereExists (Call.alike_runAll calls (fun _ _ _ _ => trivial) h.freshSub) negated c
  | .whereColumns first operator second c, _, _, _, _, h =>
      h.whereColumns first operator second c
  | .addJoin kind table calls, _, _, _, _, h =>
      h.addJoin kind table (JoinCall.alike_runAll calls (h.freshJoin table)).butTable
  | .groupBy _, _, _, _, _, h | .groupByRaw _, _, _, _, _, h => h.groupBy rfl
  | .having column operator operand c, _, _, _, _, h => h.having column operator operand c
  | .havingRaw sql values c, _, _, _, _, h => (h.bindHaving values).addHaving _
  | .havingBetween column low high, _, _, _, _, h =>
      ((h.bindHaving _).bindHaving _).addHaving _
  | .orderBy _ _, _, _, _, _, h | .orderRandomly _, _, _, _, _, h => h.addOrder _
  | .orderByText column direction, _, _, _, _, h => h.orderByText column direction
  | .orderByRaw sql values, _, _, _, _, h => (h.bindOrder values).addOrder (.raw sql)
  | .setLimit n, _, _, _, _, h => h.setLimit n
  | .setOffset n, _, _, _, _, h => h.setOffset n
  | .forPage page perPage, _, _, _, _, h => (h.setOffset _).setLimit perPage
  | .setLock l, _, _, _, _, h => h.setLock l
  | .addArm recipe all, _, _, _, _, h => h.addArm recipe.alike_build all
  | .addArmSub all calls, _, _, _, _, h =>
      h.addArm (Call.alike_runAll calls (fun _ _ _ _ => trivial) h.freshSub) all
  | .insertRow pairs, _, _, _, _, h => h.insertRow pairs
  | .insertColumns _, _, _, _, _, h | .insertValues _, _, _, _, _, h => h.change .insert _ _ _ _ _ _
  | .insertReturning pairs _, _, _, _, _, h => (h.insertRow pairs).setSequence _ _
  | .setAssignments _, _, _, _, _, h => h.change .update _ _ _ _ _ _
  | .makeDelete, _, _, _, _, h => h.change .delete _ _ _ _ _ _
  | .toAggregate function columns, _, _, _, hS, h => h.toAggregate (hS rfl) function columns
  | .toFresh, _, _, _, _, h => h.fresh id

/-- **A run.** -/
theorem Call.alike_runAll : ∀ (calls : List Call) {S : Family → Prop} {q q' : Query},
    (∀ call ∈ calls, call.family? = none → S .orders → S .groups) → q.Alike S q' →
      (Call.runAll calls q).Alike S (Call.runAll calls q')
  | [], _, _, _, _, h => h
  | call :: calls, _, _, _, hS, h =>
      Call.alike_runAll calls (fun next hnext => hS next (List.mem_cons_of_mem call hnext))
        (call.alike_run (hS call List.mem_cons_self) h)

theorem JoinCall.alike_run : ∀ (call : JoinCall) {S : Family → Prop} {q q' : Query},
    q.Alike S q' → (call.run q).Alike S (call.run q')
  | .on first operator second c, _, _, _, h => h.whereColumns first operator second c
  | .group calls, _, _, _, h =>
      h.addGroup (JoinCall.alike_runAll calls (h.fresh fun hne => absurd rfl hne)) .and
  | .whereEq column operand c, _, _, _, h => h.whereEq column operand c
  | .whereCompare column operator operand c, _, _, _, h =>
      h.whereCompare column operator operand c
  | .whereGroup calls c, _, _, _, h =>
      h.addGroup (Call.alike_runAll calls (fun _ _ _ _ => by decide)
        (h.fresh fun hne => absurd rfl hne)) c
  | .whereAll pairs c, _, _, _, h => h.whereAll pairs c
  | .whereNull column negated, _, _, _, h => h.addPredicate rfl
  | .whereIn column operands, _, _, _, h => (h.bindFilter _).addPredicate rfl
  | .whereRaw sql values, _, _, _, h => (h.bindFilter values).addPredicate rfl

theorem JoinCall.alike_runAll : ∀ (calls : List JoinCall) {S : Family → Prop} {q q' : Query},
    q.Alike S q' → (JoinCall.runAll calls q).Alike S (JoinCall.runAll calls q')
  | [], _, _, _, h => h
  | call :: calls, _, _, _, h => JoinCall.alike_runAll calls (call.alike_run h)

/-- **A program** agrees with itself. -/
theorem Recipe.alike_build : ∀ r : Recipe, r.build.Same r.build
  | ⟨_, calls⟩ =>
      Call.alike_runAll calls (fun _ _ _ _ => trivial) (.refl _ (Nat.le_refl 0))

end

end SqlWeave
