import SqlWeave.Proofs.ChangeValues
import SqlWeave.Proofs.Correspondence.Select
import SqlWeave.Proofs.UnionArms.Fragments
import SqlWeave.Proofs.UnionRedirection

/-!
# The layout of a select

The ordering and the page that a query takes further calls for are those of its outer level: of the
combined result if there are united statements, else its own.  Where united statements stand in
parentheses, the text of a select is an opening that they have no part in, then they themselves, and
then a closing that they have no part in.

* `Query.withOuter` — a query with another ordering and page of its outer level.
* `Style.selectText_eq_opening` — **the three parts of a select**.
* `Style.united_addArm` — one more united statement goes to the end of the others.
-/

namespace SqlWeave

namespace Query

/-! ## The outer level -/

/-- The ordering of the whole result. -/
def outerOrders (q : Query) : List Order :=
  if q.hasUnion then q.unionOrders else q.orders

/-- The page of the whole result. -/
def outerPage (q : Query) : Page :=
  if q.hasUnion then q.unionPage else q.page

/-- The query with another ordering and page of the whole result. -/
def withOuter (q : Query) (orders : List Order) (page : Page) : Query :=
  if q.hasUnion then { q with unionOrders := orders, unionPage := page }
  else { q with orders := orders, page := page }

/-- The ordering and the page that are there already. -/
lemma withOuter_self (q : Query) : q.withOuter q.outerOrders q.outerPage = q := by
  unfold withOuter outerOrders outerPage
  cases q
  split_ifs <;> rfl

/-- A limit is set on the outer level. -/
lemma setLimit_eq_withOuter (q : Query) (n : UInt64) :
    q.setLimit n = q.withOuter q.outerOrders { q.outerPage with limit := some n } := by
  unfold setLimit withOuter outerOrders outerPage
  split_ifs <;> rfl

lemma setOffset_eq_withOuter (q : Query) (n : UInt64) :
    q.setOffset n = q.withOuter q.outerOrders { q.outerPage with offset := some n } := by
  unfold setOffset withOuter outerOrders outerPage
  split_ifs <;> rfl

/-- A term of the ordering goes to its end on the outer level. -/
lemma addOrder_eq_withOuter (q : Query) (o : Order) :
    q.addOrder o = q.withOuter (q.outerOrders ++ [o]) q.outerPage := by
  unfold addOrder withOuter outerOrders outerPage
  split_ifs <;> rfl

variable (q : Query) (orders : List Order) (page : Page)

@[simp] lemma hasUnion_withOuter : (q.withOuter orders page).hasUnion = q.hasUnion := by
  unfold withOuter
  split_ifs <;> rfl

@[simp] lemma outerOrders_withOuter : (q.withOuter orders page).outerOrders = orders := by
  rw [outerOrders, hasUnion_withOuter, withOuter]
  split_ifs <;> rfl

@[simp] lemma outerPage_withOuter : (q.withOuter orders page).outerPage = page := by
  rw [outerPage, hasUnion_withOuter, withOuter]
  split_ifs <;> rfl

@[simp] lemma style_withOuter : (q.withOuter orders page).style = q.style := by
  unfold withOuter
  split_ifs <;> rfl

@[simp] lemma kind_withOuter : (q.withOuter orders page).kind = q.kind := by
  unfold withOuter
  split_ifs <;> rfl

@[simp] lemma error_withOuter : (q.withOuter orders page).error = q.error := by
  unfold withOuter
  split_ifs <;> rfl

/-- One more united statement makes the combined result the outer level, whose ordering was
waiting. -/
lemma outerOrders_addArm (q r : Query) (all : Bool) :
    (q.addArm r all).outerOrders = q.unionOrders := by
  rw [outerOrders, if_pos (hasUnion_addArm q r all)]
  rfl

lemma outerPage_addArm (q r : Query) (all : Bool) : (q.addArm r all).outerPage = q.unionPage := by
  rw [outerPage, if_pos (hasUnion_addArm q r all)]
  rfl

lemma addArm_withOuter_self (q r : Query) (all : Bool) :
    (q.addArm r all).withOuter q.unionOrders q.unionPage = q.addArm r all := by
  have hself := (q.addArm r all).withOuter_self
  rwa [outerOrders_addArm, outerPage_addArm] at hself

end Query

namespace Style

/-! ## Parts of a select -/

/-- An ordering and a page behind a select. -/
def trailing (s : Style) (orders : List Order) (p : Page) : String :=
  Text.attachedAll [s.ordering orders p, s.limitSql p, s.offsetSql p]

/-- The clauses between the table and the ordering. -/
def clauses (s : Style) (q : Query) : Except QueryError (List String) :=
  s.joinTexts q.joins >>= fun joins => s.predicateTexts q.predicates >>= fun predicates =>
    s.columnTexts q.groups >>= fun groups =>
      .ok [" ".intercalate joins, predicateSql q.isJoin predicates, groupList groups,
        s.havingList q.havings]

/-- A select without united statements up to its ordering. -/
def bare (s : Style) (q : Query) (a : Option Aggregate) : Except QueryError String :=
  q.requireTable >>= fun t => s.selectHead q (s.selectedTexts q.columns) a >>= fun head =>
    s.clauses q >>= fun rest => .ok (Text.phrase (head :: s.fromSql t q.lock :: rest))

/-- What stands before the parentheses of a derived table. -/
def derivedHead (s : Style) (q : Query) : String :=
  match q.aggregate with
  | some a => "select" ++ s.aggregateCall q.distinct a ++ " from ("
  | none => ""

/-- The first of several united statements. -/
def firstMember (s : Style) (sql : String) : String :=
  if s.wrapsArms then "(" ++ sql ++ ")" else sql

/-- A query and its united statements. -/
def members (s : Style) (q : Query) : Except QueryError String :=
  s.bare q none >>= fun first => s.armTexts q.arms >>= fun arms =>
    .ok (arms.foldl s.addArmSql (s.firstMember (first ++ s.trailing q.orders q.page)))

/-- A union up to the ordering of the combined result. -/
def united (s : Style) (q : Query) : Except QueryError String :=
  (s.members q).map fun w => s.derivedHead q ++ w

/-- A select up to the ordering of the whole result. -/
def opening (s : Style) (q : Query) : Except QueryError String :=
  if q.hasUnion then s.united q else s.bare q q.aggregate

/-- The lock behind a select. -/
def lockTail (s : Style) (q : Query) : String :=
  match q.lock with
  | some l => Text.attached (s.lockSql l)
  | none => ""

/-- What stands behind the page of the combined result. -/
def unionClosing (s : Style) (q : Query) : String :=
  s.lockTail q ++ if q.aggregate.isSome then ") as " ++ s.segment "temp_table" else ""

/-- What stands behind the page of the whole result. -/
def closing (s : Style) (q : Query) : String :=
  if q.hasUnion then s.unionClosing q else s.lockTail q

/-! ## How the parts are written -/

section

/-- Behind a computation that succeeds, only its result counts. -/
lemma bind_congr_ok {ε α β : Type} {x : Except ε α} {f g : α → Except ε β}
    (h : ∀ a, x = .ok a → f a = g a) : x >>= f = x >>= g := by
  cases x with
  | error e => rfl
  | ok a => exact h a rfl

variable {s : Style} {q : Query} {a : Option Aggregate} {w : String}

/-- The head of a select begins with a letter, so no trim cuts it. -/
lemma opens_selectHead {columns : Except QueryError (List String)} {head : String}
    (h : s.selectHead q columns a = .ok head) : Chars.Opens head.toList := by
  have hselect : Chars.Opens "select".toList := ⟨'s', rfl, rfl⟩
  cases a with
  | some a =>
      cases h
      simp only [aggregateHead, String.toList_append, List.append_assoc]
      exact hselect.append _
  | none =>
      cases columns with
      | error e => cases h
      | ok columns =>
          cases h
          simp only [columnsHead, String.toList_append, List.append_assoc]
          exact hselect.append _

/-- A select without an ordering neither begins nor ends in a blank. -/
lemma tight_bare (h : s.bare q a = .ok w) : Text.Tight w := by
  obtain ⟨t, -, h⟩ := ok_of_bind_ok h
  obtain ⟨head, hhead, h⟩ := ok_of_bind_ok h
  obtain ⟨rest, -, h⟩ := ok_of_bind_ok h
  cases h
  exact Text.tight_phrase_cons (opens_selectHead hhead) _

/-- Behind it, an ordering and a page leave it tight. -/
lemma tight_trailing (h : Text.Tight w) (orders : List Order) (p : Page) :
    Text.Tight (w ++ s.trailing orders p) :=
  h.append_attachedAll _

lemma tight_parenthesized (w : String) : Text.Tight ("(" ++ w ++ ")") := by
  have hopen : Text.Tight "(" := ⟨⟨'(', rfl, rfl⟩, ⟨'(', rfl, rfl⟩⟩
  exact hopen.append w ⟨⟨')', rfl, rfl⟩, ⟨')', rfl, rfl⟩⟩

/-- A lock is attached to a text that no trim shortens. -/
lemma withLock_eq (q : Query) (h : Text.Tight w) : s.withLock q.lock w = w ++ s.lockTail q := by
  unfold withLock lockTail
  cases q.lock with
  | none => exact String.append_empty.symm
  | some l => simp [Text.phrase_cons_of_tight h, Text.attachedAll]

end

variable (s : Style) (q : Query)

/-- Ordering and page are put behind the other clauses, then come the united statements and the
lock. -/
lemma assembleWith_eq_bare (a : Option Aggregate) :
    (q.requireTable >>= fun t => s.assembleWith q t a (s.selectParts q))
      = s.bare q a >>= fun w =>
        (if q.arms.isEmpty then .ok (w ++ s.trailing q.orders q.page)
        else (s.armTexts q.arms).map (s.unionSql q (w ++ s.trailing q.orders q.page))).map
          (s.withLock q.lock) := by
  simp only [assembleWith_eq, bare, clauses, selectParts, bind_assoc]
  refine bind_congr fun t => bind_congr_ok fun head hhead => bind_congr fun joins =>
    bind_congr fun predicates => bind_congr fun groups => ?_
  have hbase : s.selectBase q t head joins predicates groups
      = Text.phrase [head, s.fromSql t q.lock, " ".intercalate joins,
          predicateSql q.isJoin predicates, groupList groups, s.havingList q.havings]
        ++ s.trailing q.orders q.page :=
    Text.phrase_append (opens_selectHead hhead)
      [s.fromSql t q.lock, " ".intercalate joins, predicateSql q.isJoin predicates,
        groupList groups, s.havingList q.havings]
      [s.ordering q.orders q.page, s.limitSql q.page, s.offsetSql q.page]
  rw [hbase]
  rfl

/-- A select without united statements. -/
lemma selectText_eq_bare {s : Style} {q : Query} (hunion : q.hasUnion = false) :
    s.selectText q = (s.bare q q.aggregate).map fun w =>
      w ++ (s.trailing q.orders q.page ++ s.lockTail q) := by
  have harms : (!q.arms.isEmpty) = false := hunion
  have hbare : (q.requireTable >>= fun t => s.assembleWith q t q.aggregate (s.selectParts q))
      = (s.bare q q.aggregate).map fun w =>
        w ++ (s.trailing q.orders q.page ++ s.lockTail q) := by
    rw [assembleWith_eq_bare]
    cases hw : s.bare q q.aggregate with
    | error e => rfl
    | ok w =>
    have hempty : q.arms.isEmpty = true := by simpa using harms
    simp only [hempty, if_true]
    show Except.ok (s.withLock q.lock (w ++ s.trailing q.orders q.page)) = _
    rw [withLock_eq q (tight_trailing (tight_bare hw) _ _), String.append_assoc]
    rfl
  rw [selectText_eq, assemble, ← hbare]
  refine bind_congr fun t => ?_
  cases q.aggregate with
  | none => rfl
  | some a => simp only [harms]; rfl

/-! ## United statements -/

section

variable {s : Style} {q r : Query}

/-- What stands in front of the united statements has no part in how one more is added. -/
lemma append_addArmSql (s : Style) (v w : String) (arm : Bool × String) :
    v ++ s.addArmSql w arm = s.addArmSql (v ++ w) arm := by
  simp only [addArmSql]
  split_ifs <;> simp only [String.append_assoc]

/-- United statements go behind what they are united with. -/
lemma foldl_addArmSql (s : Style) (arms : List (Bool × String)) (v : String) :
    arms.foldl s.addArmSql v = v ++ arms.foldl s.addArmSql "" := by
  induction arms generalizing v with
  | nil => exact String.append_empty.symm
  | cons arm arms ih =>
      rw [List.foldl_cons, List.foldl_cons, ih, ih (s.addArmSql "" arm), ← String.append_assoc,
        append_addArmSql, String.append_empty]

/-- One more united statement is written last, and is refused last. -/
lemma members_addArm (q r : Query) (all : Bool) : s.members (q.addArm r all)
    = s.members q >>= fun w => (s.selectText r).map fun t => s.addArmSql w (all, t) := by
  have harms : s.armTexts (q.addArm r all).arms
      = s.armTexts q.arms >>= fun arms => (s.selectText r).map fun t => arms ++ [(all, t)] := by
    show s.armTexts (q.arms ++ [⟨r, all⟩]) = _
    rw [armTexts_eq, armTexts_eq, List.mapM_append, List.mapM_cons, List.mapM_nil, armText]
    cases q.arms.mapM s.armText <;> cases s.selectText r <;> rfl
  have hbare : s.bare (q.addArm r all) none = s.bare q none := rfl
  rw [members, harms, hbare, members]
  cases s.bare q none with
  | error e => rfl
  | ok first =>
  cases s.armTexts q.arms with
  | error e => rfl
  | ok arms =>
  cases s.selectText r with
  | error e => rfl
  | ok t =>
  show Except.ok ((arms ++ [(all, t)]).foldl s.addArmSql
    (s.firstMember (first ++ s.trailing q.orders q.page))) = _
  rw [List.foldl_append]
  rfl

/-- One more united statement goes to the end of the others. -/
theorem united_addArm (q r : Query) (all : Bool) : s.united (q.addArm r all)
    = s.united q >>= fun w => (s.selectText r).map fun t => s.addArmSql w (all, t) := by
  have hhead : s.derivedHead (q.addArm r all) = s.derivedHead q := rfl
  rw [united, members_addArm, hhead, united]
  cases s.members q with
  | error e => rfl
  | ok w =>
  cases s.selectText r with
  | error e => rfl
  | ok t => exact congrArg Except.ok (s.append_addArmSql _ w (all, t))

/-- The united statements with the ordering and the page of the combined result. -/
lemma assembleWith_eq_members (hunion : q.hasUnion = true)
    (htight : ∀ w, s.members q = .ok w → Text.Tight w) :
    (q.requireTable >>= fun t => s.assembleWith q t none (s.selectParts q))
      = (s.members q).map fun w => w ++ (Text.attached (s.unionTail q) ++ s.lockTail q) := by
  have harms : q.arms.isEmpty = false := by simpa [Query.hasUnion] using hunion
  rw [members] at htight
  rw [assembleWith_eq_bare, members]
  cases hfirst : s.bare q none with
  | error e => rfl
  | ok first =>
  simp only [harms]
  cases hmembers : s.armTexts q.arms with
  | error e => rfl
  | ok arms =>
  rw [hfirst, hmembers] at htight
  have hunited := htight _ rfl
  show Except.ok (s.withLock q.lock (Text.phrase [arms.foldl s.addArmSql
    (s.firstMember (first ++ s.trailing q.orders q.page)), s.unionTail q])) = _
  rw [Text.phrase_cons_of_tight hunited, Text.attachedAll, Text.attachedAll, String.append_empty,
    withLock_eq q (hunited.append_attached _), String.append_assoc]
  rfl

/-- A select with united statements. -/
lemma selectText_eq_united (hunion : q.hasUnion = true)
    (htight : ∀ w, s.members q = .ok w → Text.Tight w) : s.selectText q = (s.united q).map fun w =>
      w ++ (Text.attached (s.unionTail q) ++ s.unionClosing q) := by
  have harms : (!q.arms.isEmpty) = true := hunion
  have hmembers := assembleWith_eq_members hunion htight
  rw [selectText_eq, assemble]
  simp only [harms, if_true, united, derivedHead, unionClosing]
  cases q.aggregate with
  | none =>
      simp only [Option.isSome_none, Bool.false_eq_true, if_false, String.append_empty, hmembers]
      cases s.members q <;> simp [Except.map]
  | some a =>
      have hmap : ∀ f : String → String,
          (q.requireTable >>= fun t => (s.assembleWith q t none (s.selectParts q)).map f)
            = (q.requireTable >>= fun t => s.assembleWith q t none (s.selectParts q)).map f := by
        intro f
        cases q.requireTable <;> rfl
      simp only [hmap, hmembers, Option.isSome_some, if_true]
      cases s.members q with
      | error e => rfl
      | ok w => simp only [Except.map, String.append_assoc]

/-- The united statements begin with the first of them, or with its parenthesis. -/
lemma opens_members {w : String} (h : s.members q = .ok w) : Chars.Opens w.toList := by
  obtain ⟨first, hfirst, h⟩ := ok_of_bind_ok h
  obtain ⟨arms, -, h⟩ := ok_of_bind_ok h
  cases h
  rw [foldl_addArmSql, String.toList_append]
  refine Chars.Opens.append ?_ _
  have hopens := (tight_trailing (s := s) (tight_bare hfirst) q.orders q.page).1
  rw [firstMember]
  split_ifs
  · exact (tight_parenthesized _).1
  · exact hopens

/-- A select without united statements is tight, whatever stands at its end. -/
lemma tight_selectText (hunion : r.hasUnion = false) {t : String} (h : s.selectText r = .ok t) :
    Text.Tight t := by
  rw [selectText_eq_bare hunion] at h
  cases hw : s.bare r r.aggregate with
  | error e => rw [hw] at h; cases h
  | ok w =>
  rw [hw] at h
  cases h
  have htight := tight_trailing (s := s) (tight_bare hw) r.orders r.page
  show Text.Tight (w ++ (s.trailing r.orders r.page ++ s.lockTail r))
  rw [← String.append_assoc, lockTail]
  cases r.lock with
  | none => simpa using htight
  | some l => exact htight.append_attached _

/-- Without parentheses, a statement that is added has to be tight by itself. -/
lemma tight_addArmSql (hw : s.wrapsArms = false) {w t : String} (hopens : Chars.Opens w.toList)
    (ht : Text.Tight t) (all : Bool) : Text.Tight (s.addArmSql w (all, t)) := by
  simp only [addArmSql, hw, Bool.false_eq_true, if_false, Text.Tight, String.toList_append]
  refine ⟨?_, ht.2.append _⟩
  simp only [List.append_assoc]
  exact hopens.append _

/-- Without parentheses, a statement without united statements is added as it is. -/
lemma selectText_addArm_of_bare (hw : s.wrapsArms = false) (q : Query) (hunion : r.hasUnion = false)
    (all : Bool) (orders : List Order) (page : Page) :
    s.selectText ((q.addArm r all).withOuter orders page)
      = (s.united q >>= fun w => (s.selectText r).map fun t => (w, t)).map fun p =>
        s.addArmSql p.1 (all, p.2) ++ (Text.attached (s.unionTail
          ((q.addArm r all).withOuter orders page)) ++ s.unionClosing q) := by
  have hsame : s.members ((q.addArm r all).withOuter orders page) = s.members (q.addArm r all) ∧
      s.united ((q.addArm r all).withOuter orders page) = s.united (q.addArm r all) ∧
      s.unionClosing ((q.addArm r all).withOuter orders page) = s.unionClosing q := by
    rw [Query.withOuter, if_pos (Query.hasUnion_addArm q r all)]
    exact ⟨rfl, rfl, rfl⟩
  obtain ⟨hmembers, hunited, hclosing⟩ := hsame
  have htight : ∀ w, s.members ((q.addArm r all).withOuter orders page) = .ok w →
      Text.Tight w := by
    intro w h
    rw [hmembers, members_addArm] at h
    obtain ⟨v, hv, h⟩ := ok_of_bind_ok h
    cases ht : s.selectText r with
    | error e => rw [ht] at h; cases h
    | ok t =>
        rw [ht] at h
        cases h
        exact tight_addArmSql hw (opens_members hv) (tight_selectText hunion ht) all
  have hunion' : ((q.addArm r all).withOuter orders page).hasUnion = true := by
    rw [Query.hasUnion_withOuter]
    exact Query.hasUnion_addArm q r all
  rw [selectText_eq_united hunion' htight, hunited, hclosing, united_addArm]
  cases s.united q with
  | error e => rfl
  | ok w => cases s.selectText r <;> rfl

end

/-! ## United statements in parentheses -/

section

variable {s : Style} (hs : s.wrapsArms = true)
include hs

/-- Two dialects put united statements in parentheses. -/
lemma dialect_of_wrapsArms : s.dialect = .mysql ∨ s.dialect = .postgres := by
  simpa [wrapsArms] using hs

lemma dialect_ne_of_wrapsArms : s.dialect ≠ .sqlServer := by
  obtain h | h := dialect_of_wrapsArms hs <;> simp [h]

/-- A statement that is added, with its parentheses. -/
lemma addArmSql_eq (w : String) (arm : Bool × String) : s.addArmSql w arm
    = w ++ (" " ++ (if arm.1 then "union all" else "union") ++ " (" ++ arm.2) ++ ")" := by
  simp only [addArmSql, hs, if_true, String.append_assoc]

/-- **United statements in parentheses are tight**: the last of them ends in one. -/
lemma tight_members {q : Query} {w : String} (h : s.members q = .ok w) : Text.Tight w := by
  have hclose : Text.Tight ")" := ⟨⟨')', rfl, rfl⟩, ⟨')', rfl, rfl⟩⟩
  have hfold : ∀ (arms : List (Bool × String)) (v : String), Text.Tight v →
      Text.Tight (arms.foldl s.addArmSql v) := by
    intro arms
    induction arms with
    | nil => exact fun v hv => hv
    | cons arm arms ih =>
        intro v hv
        rw [List.foldl_cons, addArmSql_eq hs]
        exact ih _ (hv.append _ hclose)
  obtain ⟨first, -, h⟩ := ok_of_bind_ok h
  obtain ⟨arms, -, h⟩ := ok_of_bind_ok h
  cases h
  rw [firstMember, if_pos hs]
  exact hfold arms _ (tight_parenthesized _)

/-- Where there are parentheses, a combined result is ordered and paged as a select is. -/
lemma attached_unionTail (q : Query) :
    Text.attached (s.unionTail q) = s.trailing q.unionOrders q.unionPage := by
  simp only [unionTail, if_neg (dialect_ne_of_wrapsArms hs), Text.attached_phrase, trailing]

/-- **The three parts of a select**: up to the ordering of the whole result, this ordering with the
page, and the rest. -/
theorem selectText_eq_opening (q : Query) : s.selectText q = (s.opening q).map fun w =>
    w ++ (s.trailing q.outerOrders q.outerPage ++ s.closing q) := by
  cases hunion : q.hasUnion with
  | false =>
      simp only [selectText_eq_bare hunion, opening, closing, Query.outerOrders, Query.outerPage,
        hunion, Bool.false_eq_true, if_false]
  | true =>
      simp only [selectText_eq_united hunion (fun w => tight_members hs), opening, closing,
        Query.outerOrders, Query.outerPage, hunion, if_true, attached_unionTail hs]

/-- Where there are parentheses, no limit stands behind the first keyword. -/
lemma topSql_eq_empty (p : Page) : s.topSql p = "" := by
  have hdialect := dialect_ne_of_wrapsArms hs
  unfold topSql
  split
  · next h _ _ => exact absurd h hdialect
  · rfl

/-- The ordering and the page of the whole result have no part in the opening. -/
lemma opening_withOuter (q : Query) (orders : List Order) (page : Page) :
    s.opening (q.withOuter orders page) = s.opening q := by
  rw [Query.withOuter]
  split_ifs with hunion
  · rfl
  · have hhead : ∀ columns a, s.selectHead { q with orders := orders, page := page } columns a
        = s.selectHead q columns a := by
      intro columns a
      have hcolumns :
          s.columnsHead { q with orders := orders, page := page } = s.columnsHead q := by
        funext columns
        simp only [columnsHead, topSql_eq_empty hs]
      cases a with
      | none => simp only [selectHead, hcolumns]
      | some a => simp only [selectHead, aggregateHead, topSql_eq_empty hs]
    have hunion' : ({ q with orders := orders, page := page } : Query).hasUnion ≠ true := hunion
    rw [opening, opening, if_neg hunion, if_neg hunion', bare, bare]
    simp only [hhead]
    rfl

end

lemma closing_withOuter (s : Style) (q : Query) (orders : List Order) (page : Page) :
    s.closing (q.withOuter orders page) = s.closing q := by
  rw [Query.withOuter]
  split_ifs <;> rfl

/-- One more united statement moves the lock behind the combined result. -/
lemma closing_addArm (s : Style) (q r : Query) (all : Bool) :
    s.closing (q.addArm r all) = s.unionClosing q :=
  if_pos (Query.hasUnion_addArm q r all)

/-- The last united statement and the combined result with any orderings and pages. -/
lemma selectText_addArm_withOuter {s : Style} (hs : s.wrapsArms = true) (q r : Query) (all : Bool)
    (orders orders' : List Order) (page page' : Page) :
    s.selectText ((q.addArm (r.withOuter orders page) all).withOuter orders' page')
      = (s.united q >>= fun w => (s.opening r).map fun v => (w, v)).map fun p =>
        s.addArmSql p.1 (all, p.2 ++ (s.trailing orders page ++ s.closing r))
          ++ (s.trailing orders' page' ++ s.unionClosing q) := by
  rw [selectText_eq_opening hs, opening_withOuter hs, closing_withOuter,
    Query.outerOrders_withOuter, Query.outerPage_withOuter, opening,
    if_pos (Query.hasUnion_addArm q _ all), united_addArm, closing_addArm,
    selectText_eq_opening hs, opening_withOuter hs, closing_withOuter,
    Query.outerOrders_withOuter, Query.outerPage_withOuter]
  cases s.united q with
  | error e => rfl
  | ok w => cases s.opening r <;> rfl

/-- One more united statement, written out. -/
lemma selectText_addArm {s : Style} (hs : s.wrapsArms = true) (q r : Query) (all : Bool) :
    s.selectText (q.addArm r all) = s.united q >>= fun w => (s.selectText r).map fun t =>
      s.addArmSql w (all, t) ++ (s.trailing q.unionOrders q.unionPage ++ s.unionClosing q) := by
  rw [selectText_eq_opening hs, opening, if_pos (Query.hasUnion_addArm q r all), united_addArm,
    closing_addArm, Query.outerOrders_addArm, Query.outerPage_addArm]
  cases s.united q with
  | error e => rfl
  | ok w => cases s.selectText r <;> rfl

end Style

end SqlWeave
