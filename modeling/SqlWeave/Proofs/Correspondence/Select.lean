import SqlWeave.Proofs.Correspondence.Clauses
import SqlWeave.Query.Write

/-!
# Corresponding selects

Two queries correspond if they agree in everything that has no values and if every clause accounts
for the values of its category.  The text of a select goes through the clauses in the order in which
the categories are flattened, so the texts of two such queries correspond together with all their
values.

* `Correspondence.QueryMatch` — **the invariant** of two queries under construction.
* `Correspondence.selectMatch` — what corresponding queries are written as.
-/

namespace SqlWeave

/-- What a query says beside the clauses that may hold values. -/
def Query.frame (q : Query) : Query :=
  { q with
    columns := none, joins := [], predicates := [], groups := [], havings := [], orders := []
    arms := [], unionOrders := [], bindings := .empty, insertion := none, assignments := []
    usesWriter := false }

namespace Style

/-! ## How a select is put together -/

/-- The parts of a query as they are written. -/
def selectParts (s : Style) (q : Query) : SelectParts where
  columns := s.selectedTexts q.columns
  joins := s.joinTexts q.joins
  predicates := s.predicateTexts q.predicates
  groups := s.columnTexts q.groups
  arms := s.armTexts q.arms

/-- The first words of a select: its columns or a function over them. -/
def selectHead (s : Style) (q : Query) (columns : Except QueryError (List String)) :
    Option Aggregate → Except QueryError String
  | some a => .ok (s.aggregateHead q a)
  | none => columns.map (s.columnsHead q)

/-- A select before its unions. -/
def selectBase (s : Style) (q : Query) (t : Table) (head : String) (joins : List String)
    (predicates : List (Conjunction × String)) (groups : List String) : String :=
  Text.phrase [head, s.fromSql t q.lock, " ".intercalate joins,
    predicateSql q.isJoin predicates, groupList groups, s.havingList q.havings,
    s.ordering q.orders q.page, s.limitSql q.page, s.offsetSql q.page]

/-- A select with its lock. -/
def withLock (s : Style) (l : Option Lock) (sql : String) : String :=
  match l with
  | some l => Text.phrase [sql, s.lockSql l]
  | none => sql

/-- A select in one line: its head, joins, predicates and groups are written in this order, and the
first that is refused refuses it; then come the unions and the lock. -/
lemma assembleWith_eq (s : Style) (q : Query) (t : Table) (a : Option Aggregate)
    (ps : SelectParts) : s.assembleWith q t a ps
      = s.selectHead q ps.columns a >>= fun head => ps.joins >>= fun joins =>
        ps.predicates >>= fun predicates => ps.groups >>= fun groups =>
          (if q.arms.isEmpty then .ok (s.selectBase q t head joins predicates groups)
          else ps.arms.map (s.unionSql q (s.selectBase q t head joins predicates groups))).map
            (s.withLock q.lock) := by
  have map_eq : ∀ (x : Except QueryError String) (f : String → String),
      (x >>= fun sql => pure (f sql)) = x.map f := by
    intro x f
    cases x <;> rfl
  unfold assembleWith
  cases a with
  | none =>
      cases hlock : q.lock <;> cases hunion : q.arms.isEmpty <;>
        simp only [selectHead, selectBase, hlock, map_eq] <;> rfl
  | some a =>
      cases hlock : q.lock <;> cases hunion : q.arms.isEmpty <;>
        simp only [selectHead, selectBase, hlock, map_eq] <;> rfl

/-- A select is put together from its parts. -/
lemma selectText_eq (s : Style) (q : Query) : s.selectText q = s.assemble q (s.selectParts q) := by
  cases q
  rw [selectText]
  rfl

end Style

/-- The categories in the order in which their clauses stand in the text. -/
lemma Bindings.flatten_eq (b : Bindings) : b.flatten
    = b.select ++ (b.join ++ (b.filter ++ (b.having ++ (b.order ++ b.union)))) := by
  simp [Bindings.flatten, Category.all, Bindings.get]

namespace Correspondence

/-- What is asked of a lock. -/
def LockOk (C : Correspondence) : Lock → Prop
  | .custom sql => C.Plain sql
  | _ => True

/-- What is asked of a function over columns. -/
def AggregateOk (C : Correspondence) (a : Aggregate) : Prop :=
  C.Plain a.function ∧ ∀ n ∈ a.columns, C.name n

/-- Two insertions.  A row that lacks a column is filled up with null, so rows correspond only if
null corresponds to itself. -/
structure InsertionMatch (C : Correspondence) (i i' : Insertion) : Prop where
  columns : i.columns = i'.columns
  names : ∀ n ∈ i.columns, C.name n
  rows : C.operand (.value .null) (.value .null) →
    List.Forall₂ (List.Forall₂ C.operand) i.rows i'.rows

/-- **Two queries under construction.**  They agree in everything beside their clauses, every
clause accounts for the values of its category, and the values of united statements come before
those of the ordering of the union, which `unionTail` counts.

Whether the selected and grouped columns correspond is asked only of queries that are to be written
as a whole: of a group nothing but the predicates is used, and of a change to a table nothing but
its joins, predicates and orderings. -/
structure QueryMatch (C : Correspondence) (s : Style) (whole : Bool) (q q' : Query) : Prop where
  frame : q.frame = q'.frame
  style : q.style = s
  table : ∀ t ∈ q.table, C.TableOk t
  aggregate : ∀ a ∈ q.aggregate, C.AggregateOk a
  lock : ∀ l ∈ q.lock, C.LockOk l
  sequence : ∀ n ∈ q.sequence, C.name n
  joins : C.Parts C.JoinMatch q.joins q.bindings.join q'.joins q'.bindings.join
  predicates : C.Parts C.PredicateMatch q.predicates q.bindings.filter q'.predicates
    q'.bindings.filter
  havings : C.Parts C.HavingMatch q.havings q.bindings.having q'.havings q'.bindings.having
  orders : C.Parts C.OrderMatch q.orders q.bindings.order q'.orders q'.bindings.order
  unions : ∃ vs ws vs' ws', q.bindings.union = vs ++ ws ∧ q'.bindings.union = vs' ++ ws' ∧
    q.bindings.unionTail = ws.length ∧ q'.bindings.unionTail = ws'.length ∧
    C.Parts C.ArmMatch q.arms vs q'.arms vs' ∧
    C.Parts C.OrderMatch q.unionOrders ws q'.unionOrders ws'
  unionOrders : q.arms = [] → q.unionOrders = []
  columns_isSome : q.columns.isSome = q'.columns.isSome
  columns : whole = true → C.Parts C.ColumnMatch (q.columns.getD []) q.bindings.select
    (q'.columns.getD []) q'.bindings.select
  /-- A function over the rows takes the place of the columns, so there may be no values. -/
  aggregated : whole = true → q.aggregate ≠ none →
    C.Parts C.ColumnMatch [] q.bindings.select [] q'.bindings.select
  groups_isEmpty : q.groups.isEmpty = q'.groups.isEmpty
  groups : whole = true → C.Parts C.ColumnMatch q.groups [] q'.groups []
  insertion : C.InsertionMatch q.inserted q'.inserted
  assignments : List.Forall₂ (C.PairMatch (C.assigned s)) q.assignments q'.assignments

variable {C : Correspondence} {s : Style} {vs vs' ws ws' : List Value}

/-! ## Texts without a place for values -/

/-- Values that belong to no item belong to no text either. -/
lemma text_append_none {α : Type} {R : α → List Value → α → List Value → Prop} {t t' : String}
    {as as' : List α} (h : C.text t vs t' vs') (hnone : C.Parts R as ws as' ws')
    (hnil : as = []) : C.text t (vs ++ ws) t' (vs' ++ ws') := by
  cases hnone with
  | nil => simpa using h
  | cons _ _ => cases hnil
  | loose hloose _ hw => exact C.text_loose hloose h (C.values_append (C.values_of_text h) hw)

/-- What a page is written as consists of words and digits. -/
lemma neat_topSql (s : Style) (p : Page) : Text.Neat (s.topSql p) := by
  rw [Style.topSql]
  split
  · exact (Text.neat_append ..).mpr ⟨by decide, Text.neat_toString_nat _⟩
  · exact Text.neat_empty

lemma neat_limitSql (s : Style) (p : Page) : Text.Neat (s.limitSql p) := by
  rw [Style.limitSql]
  split
  · exact Text.neat_empty
  · exact (Text.neat_append ..).mpr ⟨by decide, Text.neat_toString_nat _⟩
  · decide
  · decide
  · exact Text.neat_empty

lemma neat_offsetFetch (n : UInt64) (limit : Option UInt64) :
    Text.Neat (Style.offsetFetch n limit) := by
  have hstart : Text.Neat ("offset " ++ toString n.toNat ++ " rows") := by
    simp only [Text.neat_append]
    exact ⟨⟨by decide, Text.neat_toString_nat _⟩, by decide⟩
  cases limit with
  | none => exact hstart
  | some m =>
      simp only [Style.offsetFetch, Text.neat_append] at hstart ⊢
      exact ⟨⟨⟨hstart, by decide⟩, Text.neat_toString_nat _⟩, by decide⟩

lemma neat_offsetSql (s : Style) (p : Page) : Text.Neat (s.offsetSql p) := by
  rw [Style.offsetSql]
  split
  · exact Text.neat_empty
  · split_ifs
    · exact neat_offsetFetch _ _
    · exact (Text.neat_append ..).mpr ⟨by decide, Text.neat_toString_nat _⟩

/-- A lock has no value: it is a word of the dialect or a text that may be written. -/
lemma plain_lockSql {l : Lock} (h : C.LockOk l) : C.Plain (s.lockSql l) := by
  cases l with
  | custom sql =>
      unfold Style.lockSql
      cases s.dialect with
      | sqlServer => exact plain_neat Text.neat_empty
      | _ => exact h
  | exclusive | shared =>
      unfold Style.lockSql
      refine plain_neat ?_
      cases s.dialect <;> decide

/-- The table of a select with a hint for the lock behind it. -/
lemma plain_fromSql (hs : C.style s) {t : Table} (ht : C.TableOk t) {l : Option Lock}
    (hl : ∀ l' ∈ l, C.LockOk l') : C.Plain (s.fromSql t l) := by
  refine ((plain_neat (by decide)).append (plain_tableSql hs ht)).append ?_
  unfold Style.lockHint
  split
  · exact plain_neat (by decide)
  · exact plain_neat (by decide)
  · exact (plain_neat (by decide)).append (hl _ rfl)
  · exact plain_neat Text.neat_empty

/-- A function over columns has no value, since columns are given by name. -/
lemma plain_aggregateCall (hs : C.style s) (distinct : Bool) {a : Aggregate}
    (h : C.AggregateOk a) : C.Plain (s.aggregateCall distinct a) := by
  have hlist : C.Plain (s.columnList a.columns) := plain_columnList hs h.2
  have hall : C.Plain
      (if (s.columnList a.columns).isEmpty then "*" else s.columnList a.columns) := by
    split_ifs
    · exact plain_neat (by decide)
    · exact hlist
  simp only [Style.aggregateCall]
  generalize (if (s.columnList a.columns).isEmpty then "*" else s.columnList a.columns)
    = columns at *
  refine Plain.append (Plain.append (Plain.append (Plain.append (plain_neat (by decide)) h.1)
    (plain_neat (by decide))) ?_) (plain_neat (by decide))
  split_ifs
  · exact (plain_neat (by decide)).append hall
  · exact hall

/-! ## Lists of clauses -/

/-- Parts that are written one by one. -/
lemma Parts.shown {α β : Type} {T : β → List Value → β → List Value → Prop} {write : Style → α → β}
    {as as' : List α} (h : C.Parts (C.Shown T write) as vs as' vs') (hs : C.style s) :
    C.Parts T (as.map (write s)) vs (as'.map (write s)) vs' :=
  h.map fun ha => ha.2 s hs

/-- The predicates on groups behind their keyword. -/
lemma text_havingList (hs : C.style s) {hvs hvs' : List Having}
    (h : C.Parts C.HavingMatch hvs vs hvs' vs') :
    C.text (s.havingList hvs) vs (s.havingList hvs') vs' :=
  text_predicateList (plain_neat (by decide)) (h.shown hs)

/-- The terms of an ordering behind their keyword, or no text if there are none. -/
lemma text_orderList (hs : C.style s) {os os' : List Order}
    (h : C.Parts C.OrderMatch os vs os' vs') :
    C.text (s.orderList os) vs (s.orderList os') vs' := by
  have hempty := h.isEmpty_eq
  rw [Style.orderList, Style.orderList, ← hempty]
  split_ifs with hnil
  · exact text_append_none (plain_neat Text.neat_empty) h (List.isEmpty_iff.mp hnil)
  · exact text_plain_append (plain_neat (by decide))
      ((h.shown hs).intercalate (plain_neat (by decide)))

/-- One dialect needs an ordering for a page and makes one up if there is none; this has no
value. -/
lemma text_ordering (hs : C.style s) {os os' : List Order}
    (h : C.Parts C.OrderMatch os vs os' vs') (p : Page) :
    C.text (s.ordering os p) vs (s.ordering os' p) vs' := by
  have hempty := h.isEmpty_eq
  rw [Style.ordering, Style.ordering, ← hempty]
  split_ifs with hany
  · exact text_append_none (plain_neat (t := Style.anyOrder) (by decide)) h
      (List.isEmpty_iff.mp hany.2.1)
  · exact text_orderList hs h

/-- What the rows are grouped by has no value. -/
lemma text_groupList {ts ts' : List String}
    (h : C.Parts C.text ts [] ts' []) :
    C.text (Style.groupList ts) [] (Style.groupList ts') [] := by
  have hempty := h.isEmpty_eq
  rw [Style.groupList, Style.groupList, ← hempty]
  split_ifs
  · exact plain_neat Text.neat_empty
  · exact text_plain_append (plain_neat (by decide)) (h.intercalate (plain_neat (by decide)))

/-! ## Unions -/

/-- An arm with its keyword, and parentheses where the dialect has them; its values follow those
before it. -/
lemma text_addArmSql {t t' : String} {arm arm' : Bool × String} (h : C.text t vs t' vs')
    (harm : C.labelled arm ws arm' ws') :
    C.text (s.addArmSql t arm) (vs ++ ws) (s.addArmSql t' arm') (vs' ++ ws') := by
  obtain ⟨hall, htext⟩ := harm
  simp only [Style.addArmSql, hall]
  have hkeyword : C.Plain (if arm'.1 then "union all" else "union") := by
    split_ifs <;> exact plain_neat (by decide)
  generalize (if arm'.1 then "union all" else "union") = keyword at hkeyword ⊢
  have hblank := text_append_plain h (plain_neat (t := " ") (by decide))
  have hstart := text_append_plain hblank hkeyword
  split_ifs
  · have hopened := text_append_plain hstart (plain_neat (t := " (") (by decide))
    exact text_append_plain (C.text_append hopened htext) (plain_neat (by decide))
  · exact C.text_append (text_append_plain hstart (plain_neat (by decide))) htext

/-- **The arms one by one.**  By induction on them, with any text in front. -/
lemma text_foldl_addArmSql {arms arms' : List (Bool × String)}
    (harms : C.Parts C.labelled arms ws arms' ws') :
    ∀ {t vs t' vs'}, C.text t vs t' vs' →
      C.text (arms.foldl s.addArmSql t) (vs ++ ws) (arms'.foldl s.addArmSql t') (vs' ++ ws') := by
  induction harms with
  | nil =>
      intro t vs t' vs' h
      simpa using h
  | cons harm _ ih =>
      intro t vs t' vs' h
      rw [← List.append_assoc, ← List.append_assoc]
      exact ih (text_addArmSql h harm)
  | loose hloose _ hw ih =>
      intro t vs t' vs' h
      exact C.text_loose hloose (ih h) (C.values_append (C.values_of_text h) hw)

/-- The ordering and the page of a union have the values of the ordering alone. -/
lemma text_unionTail (hs : C.style s) {q q' : Query} (hpage : q.unionPage = q'.unionPage)
    (h : C.Parts C.OrderMatch q.unionOrders vs q'.unionOrders vs') :
    C.text (s.unionTail q) vs (s.unionTail q') vs' := by
  have hempty := h.isEmpty_eq
  simp only [Style.unionTail, hpage, ← hempty]
  split_ifs with hserver hall hnil
  · exact text_orderList hs h
  · refine Parts.phrase_cons_plain ?_ (List.forall_mem_singleton.mpr
      (plain_neat (neat_offsetFetch _ _)))
    exact text_append_none (plain_neat (t := Style.anyOrder) (by decide)) h
      (List.isEmpty_iff.mp hnil)
  · exact Parts.phrase_cons_plain (text_orderList hs h) (List.forall_mem_singleton.mpr
      (plain_neat (neat_offsetFetch _ _)))
  · refine Parts.phrase_cons_plain (text_ordering hs h _) (List.forall_mem_cons.mpr ⟨?_, ?_⟩)
    · exact plain_neat (neat_limitSql s _)
    · exact List.forall_mem_singleton.mpr (plain_neat (neat_offsetSql s _))

/-- A union with the values of its statements and then those of its ordering. -/
lemma text_unionSql (hs : C.style s) {q q' : Query} (hpage : q.unionPage = q'.unionPage)
    {os os' : List Value} (horders : C.Parts C.OrderMatch q.unionOrders os q'.unionOrders os')
    {base base' : String} (hbase : C.text base vs base' vs') {arms arms' : List (Bool × String)}
    (harms : C.Parts C.labelled arms ws arms' ws') :
    C.text (s.unionSql q base arms) (vs ++ (ws ++ os)) (s.unionSql q' base' arms')
      (vs' ++ (ws' ++ os')) := by
  simp only [Style.unionSql, ← List.append_assoc]
  have hstart : C.text (if s.wrapsArms then "(" ++ base ++ ")" else base) vs
      (if s.wrapsArms then "(" ++ base' ++ ")" else base') vs' := by
    split_ifs
    · exact text_between (plain_neat (by decide)) hbase (plain_neat (by decide))
    · exact hbase
  exact (Parts.cons (text_foldl_addArmSql harms hstart)
    (Parts.single (text_unionTail hs hpage horders))).phrase

/-! ## The whole select -/

namespace QueryMatch

variable {r : Style} {whole : Bool} {q q' : Query}

/-! Whatever a frame holds is the same in both queries. -/

lemma same {α : Type} (h : C.QueryMatch r whole q q') (field : Query → α) :
    field q.frame = field q'.frame :=
  congrArg field h.frame

/-- Both queries are in the style of the run. -/
lemma style' (h : C.QueryMatch r whole q q') : q'.style = r :=
  (h.same Query.style).symm.trans h.style

lemma isJoin_eq (h : C.QueryMatch r whole q q') : q.isJoin = q'.isJoin :=
  h.same Query.isJoin

/-- Values of columns, if the columns are written. -/
lemma values_columns (h : C.QueryMatch r true q q') :
    C.values q.bindings.select q'.bindings.select :=
  (h.columns rfl).values fun hc => hc.1

/-- Values of a union: those of its arms and then those of its ordering. -/
lemma values_unions (h : C.QueryMatch r whole q q') :
    C.values q.bindings.union q'.bindings.union := by
  obtain ⟨vs, ws, vs', ws', hunion, hunion', -, -, harms, horders⟩ := h.unions
  rw [hunion, hunion']
  exact C.values_append (harms.values fun ha => ha.1) (horders.values fun ho => ho.1)

/-- All values of two queries that are to be written as a whole. -/
lemma values_flatten (h : C.QueryMatch r true q q') :
    C.values q.bindings.flatten q'.bindings.flatten := by
  rw [Bindings.flatten_eq, Bindings.flatten_eq]
  exact C.values_append h.values_columns (C.values_append (h.joins.values fun hj => hj.1)
    (C.values_append (h.predicates.values fun hp => hp.1)
      (C.values_append (h.havings.values fun hh => hh.1)
        (C.values_append (h.orders.values fun ho => ho.1) h.values_unions))))

/-! ### Heads -/

/-- The columns behind `select`, with what the dialect puts between. -/
lemma text_columnsHead (h : C.QueryMatch r whole q q') {ts ts' : List String}
    (hts : C.Parts C.text ts vs ts' vs') :
    C.text (s.columnsHead q ts) vs (s.columnsHead q' ts') vs' := by
  have hdistinct : q.distinct = q'.distinct := h.same Query.distinct
  have hpage : q.page = q'.page := h.same Query.page
  rw [Style.columnsHead, Style.columnsHead, hdistinct, hpage]
  refine text_plain_append (Plain.append (Plain.append ?_ (plain_neat (neat_topSql s _)))
    (plain_neat (by decide))) (hts.intercalate (plain_neat (by decide)))
  exact (plain_neat (by decide)).append (plain_neat (by cases q'.distinct <;> decide))

/-- The first words of a select with its columns, or with a function over them. -/
lemma outcome_head (h : C.QueryMatch r true q q') (hs : C.style s) (a : Option Aggregate)
    (ha : ∀ a' ∈ a, q.aggregate = some a') :
    Outcome (fun t t' => C.text t q.bindings.select t' q'.bindings.select)
      (s.selectHead q (s.selectedTexts q.columns) a)
      (s.selectHead q' (s.selectedTexts q'.columns) a) := by
  cases a with
  -- A function over the rows takes the place of the columns, which then have no values.
  | some a =>
      have haggregate := ha a rfl
      have hdistinct : q.distinct = q'.distinct := h.same Query.distinct
      have hpage : q.page = q'.page := h.same Query.page
      have hnone := h.aggregated rfl (by simp [haggregate])
      simp only [Style.selectHead, Style.aggregateHead, hdistinct, hpage]
      refine Outcome.ok (text_append_none (Plain.append ?_ (plain_aggregateCall hs _
        (h.aggregate a haggregate))) hnone rfl)
      exact (plain_neat (by decide)).append (plain_neat (neat_topSql s _))
  | none =>
      have hparts := h.columns rfl
      have hsome := h.columns_isSome
      cases hcols : q.columns with
      | none =>
          cases hcols' : q'.columns with
          | some _ => simp [hcols, hcols'] at hsome
          | none =>
              rw [hcols, hcols'] at hparts
              have hstar : C.Parts C.text [s.column "*"] [] [s.column "*"] [] :=
                Parts.single (C.text_column hs (C.name_of_neat (by decide)))
              rw [Style.selectedTexts, Style.selectHead, Style.selectHead]
              exact Outcome.ok (text_append_none (h.text_columnsHead hstar) hparts rfl)
      | some cols =>
          cases hcols' : q'.columns with
          | none => simp [hcols, hcols'] at hsome
          | some cols' =>
              rw [hcols, hcols'] at hparts
              rw [Style.selectedTexts, Style.selectedTexts, Style.columnTexts_eq,
                Style.columnTexts_eq, Style.selectHead, Style.selectHead]
              exact (hparts.mapM hs).map fun hts => h.text_columnsHead hts

/-! ### Body -/

/-- The fragments of a select before its unions. -/
lemma text_base (h : C.QueryMatch r whole q q') (hs : C.style s) {t : Table} (ht : C.TableOk t)
    {head head' : String} (hhead : C.text head vs head' vs') {joins joins' : List String}
    (hjoins : C.Parts C.text joins q.bindings.join joins' q'.bindings.join)
    {ps ps' : List (Conjunction × String)}
    (hps : C.Parts C.labelled ps q.bindings.filter ps' q'.bindings.filter)
    {groups groups' : List String} (hgroups : C.Parts C.text groups [] groups' []) :
    C.text (s.selectBase q t head joins ps groups)
      (vs ++ (q.bindings.join ++ (q.bindings.filter ++ (q.bindings.having ++ q.bindings.order))))
      (s.selectBase q' t head' joins' ps' groups')
      (vs' ++ (q'.bindings.join ++ (q'.bindings.filter ++ (q'.bindings.having
        ++ q'.bindings.order)))) := by
  have hlock : q.lock = q'.lock := h.same Query.lock
  have hpage : q.page = q'.page := h.same Query.page
  have hfrom : C.Plain (s.fromSql t q.lock) := plain_fromSql hs ht h.lock
  rw [Style.selectBase, Style.selectBase, ← hlock, ← h.isJoin_eq, ← hpage]
  have hblank : C.Plain " " := plain_neat (by decide)
  have hparts := Parts.cons (C := C) hhead <| Parts.cons hfrom <|
    Parts.cons (hjoins.intercalate hblank) <|
    Parts.cons (text_predicateSql q.isJoin hps) <| Parts.cons (text_groupList hgroups) <|
    Parts.cons (text_havingList hs h.havings) <| Parts.cons (text_ordering hs h.orders q.page) <|
    Parts.cons (plain_neat (neat_limitSql s q.page)) <|
    Parts.single (plain_neat (neat_offsetSql s q.page))
  have htext := hparts.phrase
  simp only [List.nil_append, List.append_nil] at htext
  exact htext

/-- The unions, whose values come after all others. -/
lemma outcome_unions (h : C.QueryMatch r whole q q') (hs : C.style s) {base base' : String}
    (hbase : C.text base vs base' vs') :
    Outcome (fun t t' => C.text t (vs ++ q.bindings.union) t' (vs' ++ q'.bindings.union))
      (if q.arms.isEmpty then .ok base else (s.armTexts q.arms).map (s.unionSql q base))
      (if q'.arms.isEmpty then .ok base' else (s.armTexts q'.arms).map (s.unionSql q' base')) := by
  obtain ⟨us, ws, us', ws', hunion, hunion', -, -, harms, horders⟩ := h.unions
  have hpage : q.unionPage = q'.unionPage := h.same Query.unionPage
  rw [← harms.isEmpty_eq, hunion, hunion', Style.armTexts_eq, Style.armTexts_eq]
  split_ifs with hnone
  -- Without arms neither share of the category has any value.
  · have hnil : q.arms = [] := List.isEmpty_iff.mp hnone
    have htext := text_append_none (text_append_none hbase harms hnil) horders
      (h.unionOrders hnil)
    rw [List.append_assoc, List.append_assoc] at htext
    exact Outcome.ok htext
  · exact (harms.mapM hs).map fun hts => text_unionSql hs hpage horders hbase hts

/-- A lock goes behind the whole select and has no value. -/
lemma text_withLock (h : C.QueryMatch r whole q q') {sql sql' : String}
    (hsql : C.text sql vs sql' vs') :
    C.text (s.withLock q.lock sql) vs (s.withLock q'.lock sql') vs' := by
  have hlock : q.lock = q'.lock := h.same Query.lock
  rw [← hlock]
  cases hq : q.lock with
  | none => exact hsql
  | some l =>
      exact Parts.phrase_cons_plain hsql (List.forall_mem_singleton.mpr
        (plain_lockSql (h.lock l hq)))

/-- A select with its own clauses and unions. -/
lemma outcome_assembleWith (h : C.QueryMatch r true q q') (hs : C.style s) {t : Table}
    (ht : C.TableOk t) (a : Option Aggregate) (ha : ∀ a' ∈ a, q.aggregate = some a') :
    Outcome (fun t t' => C.text t q.bindings.flatten t' q'.bindings.flatten)
      (s.assembleWith q t a (s.selectParts q)) (s.assembleWith q' t a (s.selectParts q')) := by
  have hjoins := h.joins.mapM hs
  have hpredicates := h.predicates.mapM hs
  have hgroups := (h.groups rfl).mapM hs
  simp only [Style.assembleWith_eq, Style.selectParts, Style.joinTexts_eq, Style.predicateTexts_eq,
    Style.columnTexts_eq]
  refine (h.outcome_head hs a ha).bind fun hhead => hjoins.bind fun hjs =>
    hpredicates.bind fun hps => hgroups.bind fun hgs => ?_
  refine (h.outcome_unions hs (h.text_base hs ht hhead hjs hps hgs)).map fun hsql => ?_
  rw [Bindings.flatten_eq, Bindings.flatten_eq]
  have htext := h.text_withLock (s := s) hsql
  simpa only [List.append_assoc] using htext

/-- Both have a table, the same one, or both are refused for the lack of it. -/
lemma outcome_requireTable (h : C.QueryMatch r whole q q') :
    Outcome (fun t t' => t = t' ∧ C.TableOk t) q.requireTable q'.requireTable := by
  have htable : q.table = q'.table := h.same Query.table
  have hkind : q.kind = q'.kind := h.same Query.kind
  rw [Query.requireTable, Query.requireTable, ← htable, ← hkind]
  cases hq : q.table with
  | none => exact Outcome.error _
  | some t => exact Outcome.ok ⟨rfl, h.table t hq⟩

end QueryMatch

/-- **Corresponding queries are written as corresponding selects**, with all their values. -/
theorem selectMatch {r : Style} {q q' : Query} (h : C.QueryMatch r true q q') :
    C.SelectMatch q q.bindings.flatten q' q'.bindings.flatten := by
  refine ⟨h.values_flatten, fun s hs => ?_⟩
  have haggregate : q.aggregate = q'.aggregate := h.same Query.aggregate
  have hdistinct : q.distinct = q'.distinct := h.same Query.distinct
  obtain ⟨_, _, _, _, -, -, -, -, harms, -⟩ := h.unions
  rw [Style.selectText_eq, Style.selectText_eq, Style.assemble, Style.assemble, ← haggregate,
    ← hdistinct, ← harms.isEmpty_eq]
  refine h.outcome_requireTable.bind fun {t t'} htable => ?_
  obtain ⟨rfl, ht⟩ := htable
  cases hq : q.aggregate with
  | none => exact h.outcome_assembleWith hs ht none (by simp)
  | some a =>
      simp only []
      split_ifs
      · refine (h.outcome_assembleWith hs ht none (by simp)).map fun hsql => ?_
        have hcall := plain_aggregateCall hs q.distinct (h.aggregate a hq)
        have htemp := C.text_segment hs (n := "temp_table") (C.name_of_neat (by decide))
        exact text_append_plain (text_between (((plain_neat (by decide)).append hcall).append
          (plain_neat (by decide))) hsql (plain_neat (by decide))) htemp
      · exact h.outcome_assembleWith hs ht (some a) (by simp [hq])

end Correspondence

end SqlWeave
