import SqlWeave.Proofs.UnionArms.Parentheses
import SqlWeave.Sql.Write

/-!
# What is meant for one united statement

A limit, an offset, an ordering or a union may be meant for a statement before it is united with
others, or for the combined result.  Where united statements stand in parentheses, the two are never
compiled to the same text.  Where they do not, the text leaves it open which of them is meant, and
only a limit that is written after the first keyword still tells.

* `Query.Apart` — two variants of a query that are compiled to different texts.
* `Query.apart_of_selectText` — variants of one text.
* `arm_clauses_stay_apart` — **limit, offset, ordering and union** of one united statement.
-/

namespace SqlWeave

lemma Outcome.refl {ε α : Type} {R : α → α → Prop} (h : ∀ a, R a a) (x : Except ε α) :
    Outcome R x x := by
  cases x with
  | error e => exact .error e
  | ok a => exact .ok (h a)

namespace Query

/-! ## Variants of a query -/

/-- Two variants of a query: they are refused for the same cause as the query itself, or all three
are compiled, the two variants to different texts. -/
inductive Apart (u q q' : Query) : Prop
  | refused {e : QueryError} (hu : u.toSql = .error e) (hq : q.toSql = .error e)
      (hq' : q'.toSql = .error e)
  | written {t a b : String} (hu : u.toSql = .ok t) (hq : q.toSql = .ok a) (hq' : q'.toSql = .ok b)
      (hne : a ≠ b)

/-- What decides how and whether the clauses of a query are compiled. -/
def header (q : Query) : Style × StatementKind × Option QueryError :=
  (q.style, q.kind, q.error)

variable {u q q' r : Query}

/-- What a query is compiled to, from what decides about it and the text of its select. -/
lemma toSql_of_header (hkind : u.kind = .select) (h : q.header = u.header) :
    q.toSql = u.validate >>= fun _ => u.style.selectText q := by
  simp only [header, Prod.mk.injEq] at h
  obtain ⟨hstyle, hkind', herror⟩ := h
  have hvalidate : q.validate = u.validate := by rw [validate, validate, herror]
  rw [toSql, compile, hkind', hkind, hvalidate, hstyle, Style.select]
  cases u.validate with
  | error e => rfl
  | ok _ => cases u.style.selectText q <;> rfl

/-- The first variant is put together from parts that are related to those of the query itself and
of the second variant. -/
lemma apart_of_selectText {α : Type} {R : α → α → Prop} {x y : Except QueryError α}
    {f g h : α → String} (hkind : u.kind = .select) (hq : q.header = u.header)
    (hq' : q'.header = u.header) (hparts : Outcome R x y) (htext : u.style.selectText u = y.map f)
    (htextq : u.style.selectText q = x.map g) (htextq' : u.style.selectText q' = y.map h)
    (hne : ∀ a b, R a b → g a ≠ h b) : u.Apart q q' := by
  have hsql := toSql_of_header (q := u) hkind rfl
  have hsqlq := toSql_of_header hkind hq
  have hsqlq' := toSql_of_header hkind hq'
  rw [htext] at hsql
  rw [htextq] at hsqlq
  rw [htextq'] at hsqlq'
  cases hvalidate : u.validate with
  | error e =>
      rw [hvalidate] at hsql hsqlq hsqlq'
      exact .refused hsql hsqlq hsqlq'
  | ok _ =>
  rw [hvalidate] at hsql hsqlq hsqlq'
  cases hparts with
  | error e => exact .refused hsql hsqlq hsqlq'
  | ok hab => exact .written hsql hsqlq hsqlq' (hne _ _ hab)

/-! ## United statements in parentheses -/

section

variable (hs : q.style.wrapsArms = true) (hkind : q.kind = .select) (all : Bool)
include hs hkind

section

variable (horders : r.outerOrders = []) (hpage : r.outerPage = .all)
include horders hpage

/-- What is arranged in the last united statement and what is arranged in the combined result are
written on the two sides of a parenthesis. -/
lemma apart_of_trailing {orders orders' : List Order} {page page' : Page}
    (hne : ∀ w, q.style.trailing orders page
      ++ (w ++ (")" ++ q.style.trailing q.unionOrders q.unionPage))
        ≠ w ++ (")" ++ q.style.trailing orders' page')) :
    (q.addArm r all).Apart (q.addArm (r.withOuter orders page) all)
      ((q.addArm r all).withOuter orders' page') := by
  have hplain : r.withOuter [] .all = r := by
    rw [← horders, ← hpage]
    exact r.withOuter_self
  have hnone : q.style.trailing [] .all = "" := by
    rw [Style.trailing_eq hs, Style.pageText_all]
    rfl
  have htext := Style.selectText_addArm_withOuter hs q r all [] q.unionOrders .all q.unionPage
  have htextq := Style.selectText_addArm_withOuter hs q r all orders q.unionOrders page q.unionPage
  have htextq' := Style.selectText_addArm_withOuter hs q r all [] orders' .all page'
  rw [addArm_withOuter_self, hplain] at htext
  rw [addArm_withOuter_self] at htextq
  rw [hplain] at htextq'
  -- The three texts share their beginning, so only what stands behind the last arm is compared.
  refine apart_of_selectText (R := Eq) hkind ?_ ?_ (.refl (fun _ => rfl) _) htext htextq htextq' ?_
  · show (q.style, q.kind, q.error.or (r.withOuter orders page).error)
      = (q.style, q.kind, q.error.or r.error)
    rw [error_withOuter]
  · rw [header, style_withOuter, kind_withOuter, error_withOuter, header]
  · rintro p _ rfl heq
    have hbehind := (Style.addArmSql_append_inj hs).mp heq
    rw [hnone] at hbehind
    refine hne (q.style.closing r) ?_
    simpa only [String.empty_append, String.append_assoc, String.append_right_inj] using hbehind

/-- **A page**: in the arm it stands before the parenthesis, on the combined result behind it. -/
lemma apart_of_page {page page' : Page} (hp : page.isAll = false) :
    (q.addArm r all).Apart (q.addArm (r.withOuter [] page) all)
      ((q.addArm r all).withOuter q.unionOrders page') := by
  refine apart_of_trailing hs hkind all horders hpage fun w => ?_
  have hnone : Text.attached (q.style.orderList []) = "" := rfl
  rw [Style.trailing_eq hs [], hnone, String.empty_append]
  exact Style.page_apart hs hp w q.unionOrders q.unionPage page'

lemma apart_setLimit (n : UInt64) :
    (q.addArm r all).Apart (q.addArm (r.setLimit n) all) ((q.addArm r all).setLimit n) := by
  rw [setLimit_eq_withOuter r, setLimit_eq_withOuter (q.addArm r all), outerOrders_addArm,
    outerPage_addArm, horders, hpage]
  exact apart_of_page hs hkind all horders hpage rfl

lemma apart_setOffset (n : UInt64) :
    (q.addArm r all).Apart (q.addArm (r.setOffset n) all) ((q.addArm r all).setOffset n) := by
  rw [setOffset_eq_withOuter r, setOffset_eq_withOuter (q.addArm r all), outerOrders_addArm,
    outerPage_addArm, horders, hpage]
  exact apart_of_page hs hkind all horders hpage rfl

/-- An ordering by a column, which may be further ordered by what the combined result has. -/
lemma apart_orderBy (column : String) (d : Direction) :
    (q.addArm r all).Apart (q.addArm (r.orderBy column d) all)
      ((q.addArm r all).orderBy column d) := by
  rw [orderBy, orderBy, addOrder_eq_withOuter r, addOrder_eq_withOuter (q.addArm r all),
    outerOrders_addArm, outerPage_addArm, horders, hpage]
  exact apart_of_trailing hs hkind all horders hpage fun w =>
    Style.order_apart hs w column d q.unionOrders q.unionPage

end

/-- A united statement with one of its own is written like two united statements only if its lock
can be mistaken for one. -/
lemma apart_addArm (hlock : r.hasUnion = true → r.lockUnites = false) (s : Query) {a : String}
    (h : (q.addArm (r.addArm s true) all).toSql = .ok a) :
    ∃ b, ((q.addArm r all).addArm s true).toSql = .ok b ∧ a ≠ b := by
  have hheader : ((q.addArm r all).addArm s true).header
      = (q.addArm (r.addArm s true) all).header := by
    show (q.style, q.kind, (q.error.or r.error).or s.error)
      = (q.style, q.kind, q.error.or (r.error.or s.error))
    rw [Option.or_assoc]
  have hstyle : (q.addArm (r.addArm s true) all).style = q.style := rfl
  rw [toSql_of_header (u := q.addArm (r.addArm s true) all) hkind rfl, hstyle,
    Style.selectText_addArm hs, Style.selectText_addArm hs r s] at h
  obtain ⟨_, hvalid, h⟩ := ok_of_bind_ok h
  obtain ⟨w, hw, h⟩ := ok_of_bind_ok h
  -- The text exists by assumption, so each part of it does.
  cases hv : q.style.united r with
  | error e => rw [hv] at h; cases h
  | ok v =>
  cases hsql : q.style.selectText s with
  | error e => rw [hv, hsql] at h; cases h
  | ok sql =>
  rw [hv, hsql] at h
  cases h
  obtain ⟨t, ht, hne⟩ := Style.nested_ne hs hlock hv sql
  refine ⟨q.style.addArmSql (q.style.addArmSql w (all, t)) (true, sql)
    ++ (q.style.trailing q.unionOrders q.unionPage ++ q.style.unionClosing q), ?_, fun heq => ?_⟩
  · rw [toSql_of_header (u := q.addArm (r.addArm s true) all) hkind hheader, hvalid, hstyle,
      Style.selectText_addArm hs, Style.united_addArm, hw, ht, hsql]
    rfl
  · exact Style.addArmSql_ne hs hne heq

end

end Query

/-! ## A limit after the first keyword -/

namespace Style

variable {s : Style} {r : Query} (hs : s.dialect = .sqlServer)
include hs

/-- An ordering of the combined result is the only place for a letter of the keyword to come
from. -/
lemma count_unionTail (q : Query) :
    Text.count 'p' (s.unionTail q) = Text.count 'p' (s.orderList q.unionOrders) := by
  have hfetch : ∀ m l, Text.count 'p' (offsetFetch m l) = 0 := by
    intro m l
    cases l <;>
      simp only [offsetFetch, Text.count_append, Text.count_toString (c := 'p') rfl] <;> rfl
  have hempty : Text.count 'p' (Text.phrase []) = 0 := rfl
  simp only [unionTail, hs, if_true]
  split_ifs with hall hnone
  · rfl
  · rw [Text.count_phrase_cons rfl, Text.count_phrase_cons rfl, hfetch, hempty, orderList,
      if_pos hnone]
    rfl
  · rw [Text.count_phrase_cons rfl, Text.count_phrase_cons rfl, hfetch, hempty]
    rfl

/-- A limit is one more word after the first keyword. -/
lemma outcome_bare_limit (hpage : r.page = .all) (n : UInt64) (a : Option Aggregate) :
    Outcome (fun w w' => Text.count 'p' w = Text.count 'p' w' + 1)
      (s.bare { r with page := ⟨some n, none⟩ } a) (s.bare r a) := by
  have htop : Text.count 'p' (s.topSql ⟨some n, none⟩) = 1 := by
    simp only [topSql, hs, Text.count_append, Text.count_toString (c := 'p') rfl]
    rfl
  have hnone : s.topSql r.page = "" := by
    simp only [topSql, hs, hpage, Page.all]
  have hhead : Outcome (fun w w' => Text.count 'p' w = Text.count 'p' w' + 1)
      (s.selectHead { r with page := ⟨some n, none⟩ } (s.selectedTexts r.columns) a)
      (s.selectHead r (s.selectedTexts r.columns) a) := by
    -- The first keyword is written with the columns or with a function, and the limit after it.
    cases a with
    | some a =>
        refine .ok ?_
        simp only [aggregateHead, Text.count_append, htop, hnone, Text.count_empty]
        omega
    | none =>
        rw [selectHead, selectHead]
        cases s.selectedTexts r.columns with
        | error e => exact .error e
        | ok columns =>
            refine .ok ?_
            simp only [columnsHead, Text.count_append, htop, hnone, Text.count_empty]
            omega
  rw [bare, bare]
  show Outcome _ (r.requireTable >>= _) _
  cases r.requireTable with
  | error e => exact .error e
  | ok t =>
  refine hhead.bind fun {head head'} hcount => ?_
  show Outcome _ (s.clauses r >>= _) _
  -- The other clauses do not look at the page.
  cases s.clauses r with
  | error e => exact .error e
  | ok rest =>
  refine .ok ?_
  simp only [Text.count_phrase_cons (c := 'p') rfl, hcount]
  omega

/-- In this dialect a limit without an offset leaves nothing at the end. -/
lemma trailing_nil_of_offset (l : Option UInt64) : s.trailing [] ⟨l, none⟩ = "" := by
  obtain ⟨dialect, quoting, tablePrefix⟩ := s
  cases hs
  rfl

/-- A limit of a select without a union adds one `top` to its text. -/
lemma outcome_selectText_limit (hunion : r.hasUnion = false) (horders : r.orders = [])
    (hpage : r.page = .all) (n : UInt64) :
    Outcome (fun t t' => Text.count 'p' t = Text.count 'p' t' + 1)
      (s.selectText { r with page := ⟨some n, none⟩ }) (s.selectText r) := by
  have hunion' : ({ r with page := ⟨some n, none⟩ } : Query).hasUnion = false := hunion
  rw [selectText_eq_bare hunion, selectText_eq_bare hunion', horders, hpage]
  refine (outcome_bare_limit hs hpage n r.aggregate).map fun {w w'} hcount => ?_
  show Text.count 'p' (w ++ (s.trailing [] ⟨some n, none⟩ ++ s.lockTail r))
    = Text.count 'p' (w' ++ (s.trailing [] ⟨none, none⟩ ++ s.lockTail r)) + 1
  simp only [trailing_nil_of_offset hs, Text.count_append, hcount, Text.count_empty]
  omega

end Style

namespace Query

variable {q r : Query}

/-- A limit in the arm puts a `top` into the text; a limit on the combined result does not. -/
lemma apart_setLimit_of_top (hs : q.style.dialect = .sqlServer) (hkind : q.kind = .select)
    (all : Bool) (hunion : r.hasUnion = false) (horders : r.orders = []) (hpage : r.page = .all)
    (n : UInt64) :
    (q.addArm r all).Apart (q.addArm (r.setLimit n) all) ((q.addArm r all).setLimit n) := by
  have hw : q.style.wrapsArms = false := by simp [Style.wrapsArms, hs]
  have hlimit : r.setLimit n = { r with page := ⟨some n, none⟩ } := by
    rw [setLimit, if_neg (by simp [hunion]), hpage]
    rfl
  have hunion' : (r.setLimit n).hasUnion = false := by
    rw [hlimit]
    exact hunion
  have htext := Style.selectText_addArm_of_bare hw q hunion all q.unionOrders q.unionPage
  have htextq := Style.selectText_addArm_of_bare hw q hunion' all q.unionOrders q.unionPage
  have htextq' := Style.selectText_addArm_of_bare hw q hunion all q.unionOrders
    { q.unionPage with limit := some n }
  rw [addArm_withOuter_self] at htext htextq
  -- Both texts begin with the query itself; only the arm's own text has one `p` more.
  have hparts : Outcome (fun p p' : String × String => p.1 = p'.1 ∧
        Text.count 'p' p.2 = Text.count 'p' p'.2 + 1)
      (q.style.united q >>= fun w => (q.style.selectText (r.setLimit n)).map fun t => (w, t))
      (q.style.united q >>= fun w => (q.style.selectText r).map fun t => (w, t)) := by
    cases q.style.united q with
    | error e => exact .error e
    | ok w =>
        have hlimited := Style.outcome_selectText_limit hs hunion horders hpage n
        rw [← hlimit] at hlimited
        exact hlimited.map fun hcount => ⟨rfl, hcount⟩
  rw [setLimit_eq_withOuter (q.addArm r all), outerOrders_addArm, outerPage_addArm]
  refine apart_of_selectText hkind ?_ ?_ hparts htext htextq htextq' ?_
  · rw [hlimit]
    rfl
  · rw [header, style_withOuter, kind_withOuter, error_withOuter, header]
  · rintro ⟨w, t⟩ ⟨_, t'⟩ ⟨rfl, hcount⟩ heq
    have hterms : ((q.addArm r all).withOuter q.unionOrders
        { q.unionPage with limit := some n }).unionOrders = q.unionOrders := by
      rw [withOuter, if_pos (hasUnion_addArm q r all)]
    have hterms' : (q.addArm (r.setLimit n) all).unionOrders = q.unionOrders := rfl
    -- So the letter is counted on both sides.
    have hletters := congrArg (Text.count 'p') heq
    simp only [Style.addArmSql, hw, Bool.false_eq_true, if_false, Text.count_append,
      Text.count_attached (c := 'p') rfl, Style.count_unionTail hs, hcount, hterms, hterms']
      at hletters
    omega

end Query

/-! ## The statement -/

/-- **What is meant for one united statement is not written for the combined result.**  A select is
united with a statement whose result is neither ordered nor cut.  Where united statements stand in
parentheses, it makes a difference to the text whether that statement or the combined result has a
limit, an offset or a term of an ordering, and whether that statement or the combined result has one
more united statement, unless the statement has united statements already and a lock that begins
like one.  In the dialect that writes a limit after the first keyword, a limit makes a difference if
the statement has no united statements itself. -/
theorem arm_clauses_stay_apart {q r : Query} (all : Bool) (hkind : q.kind = .select)
    (horders : r.outerOrders = []) (hpage : r.outerPage = .all) :
    let u := q.addArm r all
    (q.style.wrapsArms = true →
      (∀ n, u.Apart (q.addArm (r.setLimit n) all) (u.setLimit n)) ∧
      (∀ n, u.Apart (q.addArm (r.setOffset n) all) (u.setOffset n)) ∧
      (∀ column d, u.Apart (q.addArm (r.orderBy column d) all) (u.orderBy column d)) ∧
      ∀ (s : Query) (a : String), (r.hasUnion = true → r.lockUnites = false) →
        (q.addArm (r.addArm s true) all).toSql = .ok a →
          ∃ b, (u.addArm s true).toSql = .ok b ∧ a ≠ b) ∧
    (q.style.dialect = .sqlServer → r.hasUnion = false →
      ∀ n, u.Apart (q.addArm (r.setLimit n) all) (u.setLimit n)) := by
  intro u
  refine ⟨fun hs => ⟨?_, ?_, ?_, ?_⟩, fun hs hunion n => ?_⟩
  · exact Query.apart_setLimit hs hkind all horders hpage
  · exact Query.apart_setOffset hs hkind all horders hpage
  · exact Query.apart_orderBy hs hkind all horders hpage
  · exact fun s a hlock => Query.apart_addArm hs hkind all hlock s
  · rw [Query.outerOrders, if_neg (by simp [hunion])] at horders
    rw [Query.outerPage, if_neg (by simp [hunion])] at hpage
    exact Query.apart_setLimit_of_top hs hkind all hunion horders hpage n

/-- A union that is ordered and cut already is united with a locked union, and a select of the
dialect that writes a limit after the first keyword with another one. -/
theorem arm_clauses_stay_apart_ordered_union :
    let select (d : Dialect) (table : String) : Query :=
      { Query.empty (.plain d) with table := some (.named table) }
    let q := (((select .mysql "a").addArm (select .mysql "b") false).orderBy "x" .desc).setOffset 2
    let r := ((select .mysql "c").addArm (select .mysql "d") true).setLock .exclusive
    let s := select .mysql "e"
    let u := q.addArm r false
    let top := select .sqlServer "a"
    let topped := select .sqlServer "b"
    (q.kind = .select ∧ r.outerOrders = [] ∧ r.outerPage = .all ∧ q.style.wrapsArms = true ∧
      r.hasUnion = true ∧ r.lockUnites = false) ∧
    (u.Apart (q.addArm (r.setLimit 5) false) (u.setLimit 5) ∧
      u.Apart (q.addArm (r.setOffset 5) false) (u.setOffset 5) ∧
      u.Apart (q.addArm (r.orderBy "y" .asc) false) (u.orderBy "y" .asc) ∧
      ∃ a b, (q.addArm (r.addArm s true) false).toSql = .ok a ∧ (u.addArm s true).toSql = .ok b ∧
        a ≠ b) ∧
    (top.kind = .select ∧ topped.outerOrders = [] ∧ topped.outerPage = .all ∧
      top.style.dialect = .sqlServer ∧ topped.hasUnion = false) ∧
    (top.addArm topped true).Apart (top.addArm (topped.setLimit 5) true)
      ((top.addArm topped true).setLimit 5) := by
  intro select q r s u top topped
  obtain ⟨hlimit, hoffset, horder, hnested⟩ :=
    (arm_clauses_stay_apart (q := q) (r := r) false rfl rfl rfl).1 rfl
  have htop := (arm_clauses_stay_apart (q := top) (r := topped) true rfl rfl rfl).2 rfl rfl 5
  have hwritten : (q.addArm (r.addArm s true) false).toSql.toOption.isSome = true := by
    decide +kernel
  obtain ⟨a, ha⟩ : ∃ a, (q.addArm (r.addArm s true) false).toSql = .ok a := by
    cases hsql : (q.addArm (r.addArm s true) false).toSql with
    | error e => rw [hsql] at hwritten; cases hwritten
    | ok a => exact ⟨a, rfl⟩
  obtain ⟨b, hb, hne⟩ := hnested s a (fun _ => rfl) ha
  exact ⟨⟨rfl, rfl, rfl, rfl, rfl, rfl⟩, ⟨hlimit 5, hoffset 5, horder "y" .asc, a, b, ha, hb, hne⟩,
    ⟨rfl, rfl, rfl, rfl, rfl⟩, htop⟩

/-- Where united statements do not stand in parentheses, a limit, an offset, a term of an ordering
and one more united statement are written in the same way for the last united statement as for the
combined result; a limit after the first keyword is no exception if the statement has united
statements itself.  A change has no united statements, and a lock may look like one. -/
theorem arm_clauses_merge :
    let select (d : Dialect) (table : String) : Query :=
      { Query.empty (.plain d) with table := some (.named table) }
    let sql (q : Query) : Option String := q.toSql.toOption
    let written (text : String) (q q' : Query) : Prop := sql q = some text ∧ sql q' = some text
    (let q := select .ansi "a"
     let r := select .ansi "b"
     let s := select .ansi "c"
     let base := "select * from \"a\" union select * from \"b\""
     (q.error = none ∧ r.outerOrders = [] ∧ r.outerPage = .all) ∧
      written (base ++ " limit 5") (q.addArm (r.setLimit 5) false)
        ((q.addArm r false).setLimit 5) ∧
      written (base ++ " offset 5") (q.addArm (r.setOffset 5) false)
        ((q.addArm r false).setOffset 5) ∧
      written (base ++ " order by \"x\" asc") (q.addArm (r.orderBy "x" .asc) false)
        ((q.addArm r false).orderBy "x" .asc) ∧
      written (base ++ " union all select * from \"c\"") (q.addArm (r.addArm s true) false)
        ((q.addArm r false).addArm s true)) ∧
    (let q := select .sqlite "a"
     let r := select .sqlite "b"
     written "select * from \"a\" union select * from \"b\" limit 5"
      (q.addArm (r.setLimit 5) false) ((q.addArm r false).setLimit 5)) ∧
    (let q := select .sqlServer "a"
     let r := select .sqlServer "b"
     let s := select .sqlServer "c"
     written "select * from [a] union select * from [b] order by (select 0) offset 5 rows"
        (q.addArm (r.setOffset 5) false) ((q.addArm r false).setOffset 5) ∧
      written "select * from [a] union select * from [b] order by [x] asc"
        (q.addArm (r.orderBy "x" .asc) false) ((q.addArm r false).orderBy "x" .asc) ∧
      written ("select * from [a] union select * from [b] union all select * from [c] "
          ++ "order by (select 0) offset 0 rows fetch next 5 rows only")
        (q.addArm ((r.addArm s true).setLimit 5) false)
        ((q.addArm (r.addArm s true) false).setLimit 5)) ∧
    (let q := select .mysql "a"
     let s := select .mysql "c"
     let r := ((select .mysql "b").addArm s true).setLock (.custom "union all (select * from `c`")
     written "delete from `a`" (q.makeDelete.addArm (s.setLimit 5) false)
        ((q.makeDelete.addArm s false).setLimit 5) ∧
      written ("(select * from `a`) union ((select * from `b`) union all (select * from `c`) "
          ++ "union all (select * from `c`) union all (select * from `c`)")
        (q.addArm (r.addArm s true) false) ((q.addArm r false).addArm s true)) := by
  intro select sql written
  refine ⟨⟨by decide +kernel, ?_, ?_, ?_, ?_⟩, ?_, ⟨?_, ?_, ?_⟩, ?_, ?_⟩
  -- Texts are compared one at a time: all at once, they take far more memory.
  all_goals exact ⟨by decide +kernel, by decide +kernel⟩

end SqlWeave
