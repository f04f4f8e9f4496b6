import SqlWeave.Proofs.UnionArms.Layout
import SqlWeave.Proofs.Writable

/-!
# The text of a select for SQL Server

A limit alone stands behind the first keywords; an offset stands behind the ordering, takes the
limit with it and makes an ordering where there is none.  So one page has a part in several
fragments of a phrase.  Here a select is one text with a place for each part of its pages, and all
that stands beside these places is told without a look at the pages.

* `Page.top`, `Style.pageEnding` — **the specification** of a page: what it says at either place.
* `Page.begun` — the page of a combined result, which has an offset in any case.
* `Style.Writes` — the texts of the parts of a select.
* `Style.serverSelect` — a select with its pages.
* `Style.Writes.selectText_eq`, `Style.exists_writes` — it is what is written of these parts.
-/

namespace SqlWeave

/-! ## Blanks at the end -/

namespace Chars

/-- Behind a text, what is all blanks goes with a trim. -/
lemma trimEnd_append_of_blank {t : List Char} (h : trimEnd t = []) (s : List Char) :
    trimEnd (s ++ t) = trimEnd s := by
  induction s with
  | nil => exact h
  | cons c s ih => rw [List.cons_append, trimEnd_cons, trimEnd_cons, ih]

/-- Behind a character that is not blank only the blanks at the end go. -/
lemma trimEnd_append_of_closes {s : List Char} (h : Closes s) (t : List Char) :
    trimEnd (s ++ t) = s ++ trimEnd t := by
  by_cases ht : trimEnd t = []
  · rw [trimEnd_append_of_blank ht, trimEnd_of_closes h, ht, List.append_nil]
  · exact trimEnd_append ht s

lemma not_blank_of_isDigit {c : Char} (h : c.isDigit = true) : isBlank c = false := by
  simp only [Char.isDigit, Bool.and_eq_true, decide_eq_true_eq, UInt32.le_iff_toNat_le] at h
  simp only [isBlank, Bool.or_eq_false_iff, Bool.and_eq_false_iff, decide_eq_false_iff_not,
    beq_eq_false_iff_ne, ne_eq, Char.le_def, Char.ext_iff, UInt32.le_iff_toNat_le,
    ← UInt32.toNat_inj]
  simp at h ⊢
  omega

end Chars

namespace Text

/-- A text without the blanks at its end. -/
def trimEnd (t : String) : String :=
  String.ofList (Chars.trimEnd t.toList)

variable {s : String}

/-- Behind a tight text only the blanks at the end are trimmed. -/
lemma Tight.trim_append (h : Tight s) (t : String) : trim (s ++ t) = s ++ trimEnd t := by
  rw [← String.toList_inj, toList_trim, Chars.trim]
  simp only [String.toList_append, trimEnd, String.toList_ofList]
  rw [Chars.trimStart_of_opens (h.1.append _), Chars.trimEnd_append_of_closes h.2]

/-- A trim of what stands behind a tight text leaves the whole tight. -/
lemma Tight.append_trimEnd (h : Tight s) (t : String) : Tight (s ++ trimEnd t) := by
  rw [← h.trim_append]
  refine tight_trim (trim_ne_empty ?_)
  rw [String.toList_append]
  exact h.1.append _

lemma closes_toString (n : ℕ) : Chars.Closes (toString n).toList := by
  rw [Nat.toString_eq_ofList_toDigits, String.toList_ofList]
  obtain ⟨c, hc⟩ : ∃ c, (Nat.toDigits 10 n).getLast? = some c := by
    cases hdigits : Nat.toDigits 10 n with
    | nil => exact absurd hdigits Nat.toDigits_ne_nil
    | cons d ds => exact ⟨_, List.getLast?_eq_some_getLast (List.cons_ne_nil d ds)⟩
  exact ⟨c, hc, Chars.not_blank_of_isDigit (Nat.isDigit_of_mem_toDigits (by decide) (by decide)
    (List.mem_of_getLast? hc))⟩

end Text

/-! ## Pages -/

namespace Page

/-- What stands behind the first keywords: a limit without an offset. -/
def top (p : Page) : String :=
  match p.limit, p.offset with
  | some n, none => " top " ++ toString n.toNat
  | _, _ => ""

/-- The page of a combined result: a limit begins at the first row if nothing else is said. -/
def begun (p : Page) : Page :=
  if p.isAll then p else { p with offset := some (p.offset.getD 0) }

/-- A limit behind the first keyword leaves it tight. -/
lemma tight_append_top {s : String} (h : Text.Tight s) (p : Page) : Text.Tight (s ++ p.top) := by
  unfold top
  split
  · rw [← String.append_assoc, Text.Tight, String.toList_append, String.toList_append]
    exact ⟨(h.1.append _).append _, (Text.closes_toString _).append _⟩
  · rwa [String.append_empty]

end Page

/-- How many rows are left out, and how many of the next ones are kept. -/
def rowsText (offset : UInt64) (limit : Option UInt64) : String :=
  " offset " ++ toString offset.toNat ++ " rows" ++
    match limit with
    | some n => " fetch next " ++ toString n.toNat ++ " rows only"
    | none => ""

namespace Style

variable {s : Style} {q : Query}

/-- An ordering by its terms, or by a constant if there are none. -/
def orderClause (s : Style) (orders : List Order) : String :=
  " " ++ Text.trim ("order by " ++
    if orders.isEmpty then "(select 0)" else ", ".intercalate (orders.map s.orderSql))

/-- **What stands behind the other clauses**: an ordering, if there is one or an offset needs one,
and behind it the offset with the limit. -/
def pageEnding (s : Style) (orders : List Order) (p : Page) : String :=
  match p.offset with
  | some offset => s.orderClause orders ++ rowsText offset p.limit
  | none => if orders.isEmpty then "" else s.orderClause orders

/-- An ordering keeps its keyword when it is trimmed. -/
lemma attached_orderBy (terms : String) :
    Text.attached ("order by " ++ terms) = " " ++ Text.trim ("order by " ++ terms) := by
  refine if_neg (Text.trim_ne_empty ?_)
  rw [String.toList_append]
  exact Chars.Opens.append ⟨'o', rfl, rfl⟩ _

lemma attached_anyOrder (s : Style) : Text.attached anyOrder = s.orderClause [] :=
  attached_orderBy "(select 0)"

/-- An ordering is attached if there are any terms. -/
lemma attached_orderList (s : Style) (orders : List Order) :
    Text.attached (s.orderList orders) = if orders.isEmpty then "" else s.orderClause orders := by
  rw [orderList, orderClause]
  split_ifs
  · exact Text.attached_empty
  · exact attached_orderBy _

/-- Rows to skip and to fetch are attached as they are. -/
lemma attached_offsetFetch (offset : UInt64) (limit : Option UInt64) :
    Text.attached (offsetFetch offset limit) = rowsText offset limit := by
  have htight : Text.Tight (offsetFetch offset limit) := by
    have hopens : Chars.Opens "offset ".toList := ⟨'o', rfl, rfl⟩
    cases limit with
    | none =>
        simp only [offsetFetch, Text.Tight, String.toList_append]
        exact ⟨(hopens.append _).append _, Chars.Closes.append ⟨'s', rfl, rfl⟩ _⟩
    | some n =>
        simp only [offsetFetch, Text.Tight, String.toList_append]
        exact ⟨((((hopens.append _).append _).append _).append _).append _,
          Chars.Closes.append ⟨'y', rfl, rfl⟩ _⟩
  rw [htight.attached_eq]
  cases limit <;>
    simp only [offsetFetch, rowsText, String.append_assoc, String.append_empty] <;> rfl

section

variable (hs : s.dialect = .sqlServer)
include hs

/-- The limit behind the first keyword is that of a page without an offset. -/
lemma topSql_eq_top (p : Page) : s.topSql p = p.top := by
  obtain ⟨limit, offset⟩ := p
  cases limit <;> cases offset <;> simp [topSql, Page.top, hs]

/-- Ordering, limit and offset are written as three fragments. -/
lemma trailing_eq_pageEnding (orders : List Order) (p : Page) :
    s.trailing orders p = s.pageEnding orders p := by
  have hlimit : s.limitSql p = "" := by simp [limitSql, hs]
  cases hoffset : p.offset with
  | none =>
      simp only [trailing, Text.attachedAll, hlimit, Text.attached_empty, ordering, offsetSql,
        hoffset, Option.isSome_none, Bool.false_eq_true, and_false, if_false, String.append_empty,
        pageEnding, attached_orderList]
  | some offset =>
      have horder : Text.attached (s.ordering orders p) = s.orderClause orders := by
        cases orders with
        | nil => simpa [ordering, hs, hoffset] using s.attached_anyOrder
        | cons o os => simp [ordering, attached_orderList]
      simp only [trailing, Text.attachedAll, hlimit, Text.attached_empty, horder, offsetSql,
        hoffset, if_pos hs, attached_offsetFetch, String.append_empty, String.empty_append,
        pageEnding]

/-- A combined result is ordered and paged like a select whose page has begun. -/
lemma attached_unionTail_eq_pageEnding (q : Query) :
    Text.attached (s.unionTail q) = s.pageEnding q.unionOrders q.unionPage.begun := by
  cases hall : q.unionPage.isAll with
  | true =>
      have hoffset : q.unionPage.offset = none := by
        simp [Page.isAll] at hall
        exact hall.2
      simp only [unionTail, hs, if_true, hall, attached_orderList, Page.begun, pageEnding, hoffset]
  | false =>
      have horder : Text.attached (if q.unionOrders.isEmpty then anyOrder
          else s.orderList q.unionOrders) = s.orderClause q.unionOrders := by
        cases horders : q.unionOrders with
        | nil => simpa using s.attached_anyOrder
        | cons o os => simp [attached_orderList]
      simp only [unionTail, hs, if_true, hall, Bool.false_eq_true, if_false, Text.attached_phrase,
        Text.attachedAll, horder, attached_offsetFetch, String.append_empty, Page.begun, pageEnding]

end

/-! ## Selects -/

/-- The texts of the parts of a select. -/
structure Texts where
  columns : List String
  joins : List String
  predicates : List (Conjunction × String)
  groups : List String
  arms : List (Bool × String)

/-- What the parts of a select are written as.  A function over the rows takes the place of the
columns, unless it is over those of a union. -/
structure Writes (s : Style) (q : Query) (table : Table) (w : Texts) : Prop where
  table : q.table = some table
  columns : q.aggregate = none ∨ q.arms ≠ [] → s.selectedTexts q.columns = .ok w.columns
  joins : s.joinTexts q.joins = .ok w.joins
  predicates : s.predicateTexts q.predicates = .ok w.predicates
  groups : s.columnTexts q.groups = .ok w.groups
  arms : s.armTexts q.arms = .ok w.arms

/-- The function that takes the place of the columns, if one does. -/
def ownAggregate (q : Query) : Option Aggregate :=
  if q.arms.isEmpty then q.aggregate else none

/-- The first keywords of a select. -/
def firstKeywords (q : Query) : String :=
  if (ownAggregate q).isNone ∧ q.distinct then "select distinct" else "select"

/-- What is selected. -/
def selection (s : Style) (q : Query) (columns : List String) : String :=
  match ownAggregate q with
  | some a => s.aggregateCall q.distinct a
  | none => " " ++ ", ".intercalate columns

/-- The clauses of a select up to its ordering. -/
def serverClauses (s : Style) (q : Query) (table : Table) (w : Texts) : String :=
  Text.trimEnd (s.selection q w.columns) ++ Text.attachedAll [s.fromSql table q.lock,
    " ".intercalate w.joins, predicateSql q.isJoin w.predicates, groupList w.groups,
    s.havingList q.havings]

/-- The united statements, each behind its keyword. -/
def serverArms (s : Style) (arms : List (Bool × String)) : String :=
  Text.trimEnd (arms.foldl s.addArmSql "")

/-- **A select with its own page and that of its combined result.** -/
def serverSelect (s : Style) (q : Query) (table : Table) (w : Texts) (page unionPage : Page) :
    String :=
  firstKeywords q ++ page.top ++ s.serverClauses q table w ++ s.pageEnding q.orders page ++
    if q.arms.isEmpty then ""
    else s.serverArms w.arms ++ s.pageEnding q.unionOrders unionPage.begun

/-- A function over the rows of a union takes the union as a derived table. -/
def derived (s : Style) (q : Query) (sql : String) : String :=
  match q.aggregate with
  | some a =>
    if q.arms.isEmpty then sql
    else "select" ++ s.aggregateCall q.distinct a ++ " from (" ++ sql ++ ") as "
      ++ s.segment "temp_table"
  | none => sql

/-- A select with the pages that it has. -/
def serverText (s : Style) (q : Query) (table : Table) (w : Texts) : String :=
  s.derived q (s.serverSelect q table w q.page q.unionPage)

/-- The first keywords are words. -/
lemma tight_firstKeywords (q : Query) : Text.Tight (firstKeywords q) := by
  rw [firstKeywords]
  split_ifs
  · exact ⟨⟨'s', rfl, rfl⟩, ⟨'t', rfl, rfl⟩⟩
  · exact ⟨⟨'s', rfl, rfl⟩, ⟨'t', rfl, rfl⟩⟩

section

variable (hs : s.dialect = .sqlServer) {table : Table} {w : Texts}
include hs

/-- The head of a select: its keywords, the limit and what is selected. -/
lemma selectHead_eq (columns : Except QueryError (List String))
    (hcolumns : ownAggregate q = none → columns = .ok w.columns) :
    s.selectHead q columns (ownAggregate q)
      = .ok (firstKeywords q ++ q.page.top ++ s.selection q w.columns) := by
  cases haggregate : ownAggregate q with
  | none =>
      simp only [selectHead, hcolumns haggregate, firstKeywords, selection, haggregate,
        Option.isNone_none, true_and, ← topSql_eq_top hs, Except.map, columnsHead]
      cases q.distinct <;> simp only [String.append_assoc] <;> rfl
  | some a =>
      simp only [selectHead, firstKeywords, selection, haggregate, aggregateHead,
        topSql_eq_top hs, Option.isNone_some, Bool.false_eq_true, false_and, if_false]

/-- A select up to its united statements. -/
lemma selectBase_eq (w : Texts) : s.selectBase q table
      (firstKeywords q ++ q.page.top ++ s.selection q w.columns) w.joins w.predicates w.groups
    = firstKeywords q ++ q.page.top ++ s.serverClauses q table w
      ++ s.pageEnding q.orders q.page := by
  have hhead := Page.tight_append_top (tight_firstKeywords q) q.page
  have hne : firstKeywords q ++ q.page.top ++ Text.trimEnd (s.selection q w.columns) ≠ "" :=
    (hhead.append_trimEnd _).ne_empty
  rw [selectBase, Text.phrase_cons, hhead.trim_append, if_neg hne, ← trailing_eq_pageEnding hs,
    serverClauses]
  simp only [Text.attachedAll, trailing, String.append_assoc, String.append_empty]

/-- The united statements with their page, behind the first select. -/
lemma unionSql_eq {base : String} (hbase : Text.Tight base) (w : Texts) :
    s.unionSql q base w.arms
      = base ++ (s.serverArms w.arms ++ s.pageEnding q.unionOrders q.unionPage.begun) := by
  have hne : base ++ Text.trimEnd (w.arms.foldl s.addArmSql "") ≠ "" :=
    (hbase.append_trimEnd _).ne_empty
  have hwraps : s.wrapsArms = false := by simp [wrapsArms, hs]
  rw [unionSql, hwraps, if_neg Bool.false_ne_true, foldl_addArmSql, Text.phrase_cons,
    hbase.trim_append, if_neg hne, Text.attachedAll, Text.attachedAll,
    attached_unionTail_eq_pageEnding hs, serverArms]
  simp only [String.append_assoc, String.append_empty]

/-- A lock is no part of what follows the table. -/
lemma withLock_eq_self (l : Option Lock) {sql : String} (h : Text.Tight sql) :
    s.withLock l sql = sql := by
  cases l with
  | none => rfl
  | some l =>
      have hlock : s.lockSql l = "" := by simp [lockSql, hs]
      simp only [withLock, hlock, Text.phrase_cons_of_tight h, Text.attachedAll,
        Text.attached_empty, String.append_empty]

/-- Behind a tight text, a page leaves it tight. -/
lemma tight_append_pageEnding {sql : String} (h : Text.Tight sql) (orders : List Order) (p : Page) :
    Text.Tight (sql ++ s.pageEnding orders p) := by
  rw [← trailing_eq_pageEnding hs]
  exact tight_trailing h orders p

lemma tight_selectBase (q : Query) (table : Table) (w : Texts) (page : Page) :
    Text.Tight (firstKeywords q ++ page.top ++ s.serverClauses q table w
      ++ s.pageEnding q.orders page) := by
  refine tight_append_pageEnding hs ?_ q.orders page
  rw [serverClauses, ← String.append_assoc]
  exact ((Page.tight_append_top (tight_firstKeywords q) page).append_trimEnd _).append_attachedAll _

/-- **A whole select is tight**, whatever pages stand in it. -/
lemma tight_serverSelect (q : Query) (table : Table) (w : Texts) (page unionPage : Page) :
    Text.Tight (s.serverSelect q table w page unionPage) := by
  have hbase := tight_selectBase hs q table w page
  rw [serverSelect]
  split_ifs
  · rwa [String.append_empty]
  · rw [← String.append_assoc]
    exact tight_append_pageEnding hs (hbase.append_trimEnd _) _ _

/-- A select whose parts are written is this text. -/
lemma Writes.assembleWith_eq (h : s.Writes q table w) :
    s.assembleWith q table (ownAggregate q) (s.selectParts q)
      = .ok (s.serverSelect q table w q.page q.unionPage) := by
  have hcolumns : ownAggregate q = none → s.selectedTexts q.columns = .ok w.columns := by
    intro hnone
    refine h.columns ?_
    cases harms : q.arms with
    | nil => exact .inl (by simpa [ownAggregate, harms] using hnone)
    | cons arm arms => exact .inr (List.cons_ne_nil arm arms)
  have hbase := tight_selectBase hs q table w q.page
  rw [Style.assembleWith_eq]
  simp only [selectParts, selectHead_eq hs _ hcolumns, h.joins, h.predicates, h.groups, h.arms]
  show Except.map (s.withLock q.lock) (if q.arms.isEmpty = true then
    .ok (s.selectBase q table _ w.joins w.predicates w.groups)
    else .ok (s.unionSql q (s.selectBase q table _ w.joins w.predicates w.groups) w.arms)) = _
  rw [selectBase_eq hs, unionSql_eq hs hbase]
  have htight := tight_serverSelect hs q table w q.page q.unionPage
  rw [serverSelect] at htight ⊢
  split_ifs at htight ⊢ with harms
  · rw [String.append_empty]
    exact congrArg Except.ok (withLock_eq_self hs _ hbase)
  · exact congrArg Except.ok (withLock_eq_self hs _ htight)

/-- **What is written of the parts of a select.** -/
theorem Writes.selectText_eq (h : s.Writes q table w) :
    s.selectText q = .ok (s.serverText q table w) := by
  have hassemble := h.assembleWith_eq hs
  rw [Style.selectText_eq, assemble, Query.requireTable, h.table, serverText, derived]
  show (match q.aggregate with
    | some a =>
      if !q.arms.isEmpty then (s.assembleWith q table none (s.selectParts q)).map fun sql =>
        "select" ++ s.aggregateCall q.distinct a ++ " from (" ++ sql ++ ") as "
          ++ s.segment "temp_table"
      else s.assembleWith q table (some a) (s.selectParts q)
    | none => s.assembleWith q table none (s.selectParts q)) = _
  cases haggregate : q.aggregate with
  | none =>
      have hown : ownAggregate q = none := by simp [ownAggregate, haggregate]
      rw [hown] at hassemble
      exact hassemble
  | some a =>
      cases harms : q.arms.isEmpty with
      | true =>
          have hown : ownAggregate q = some a := by simp [ownAggregate, haggregate, harms]
          rw [hown] at hassemble
          exact hassemble
      | false =>
          have hown : ownAggregate q = none := by simp [ownAggregate, harms]
          rw [hown] at hassemble
          simp only [hassemble]
          rfl

omit hs in
/-- The parts of a select that can be written can be written. -/
theorem exists_writes (h : q.Selectable) : ∃ table w, s.Writes q table w := by
  obtain ⟨htable, hsubqueries⟩ := (Query.selectable_iff q).mp h
  obtain ⟨hcolumns, ⟨hjoins, hpredicates⟩, hgroups, harms⟩ :=
    (Query.forall_mem_subqueries q).mp hsubqueries
  obtain ⟨table, htable⟩ := Option.ne_none_iff_exists'.mp htable
  obtain ⟨joins, hjoins⟩ := (joinTexts_succeeds_iff s q.joins).mpr hjoins
  obtain ⟨predicates, hpredicates⟩ := (predicateTexts_succeeds_iff s q.predicates).mpr hpredicates
  obtain ⟨groups, hgroups⟩ := (columnTexts_succeeds_iff s q.groups).mpr hgroups
  obtain ⟨arms, harms⟩ := (armTexts_succeeds_iff s q.arms).mpr harms
  obtain ⟨columns, hcolumns⟩ : ∃ columns, q.aggregate = none ∨ q.arms ≠ [] →
      s.selectedTexts q.columns = .ok columns := by
    by_cases hshown : q.aggregate = none ∨ q.arms ≠ []
    · obtain ⟨columns, htexts⟩ := (selectedTexts_succeeds_iff s q.columns).mpr
        (hcolumns (by simpa [Option.isSome_iff_ne_none, imp_iff_not_or] using hshown))
      exact ⟨columns, fun _ => htexts⟩
    · exact ⟨[], fun hyes => absurd hyes hshown⟩
  exact ⟨table, ⟨columns, joins, predicates, groups, arms⟩,
    ⟨htable, hcolumns, hjoins, hpredicates, hgroups, harms⟩⟩

end

end Style

end SqlWeave
