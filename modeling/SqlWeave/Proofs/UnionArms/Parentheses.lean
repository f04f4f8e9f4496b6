import SqlWeave.Proofs.UnionArms.Layout

/-!
# Both sides of a parenthesis

Where united statements stand in parentheses, what belongs to the last of them stands before a
closing parenthesis and what belongs to the combined result behind it.  The same clause on the other
side makes another text: a page has no parenthesis, an ordering ends with a word, and a union
inside of a parenthesis has one more of them.

* `Style.page_apart`, `Style.order_apart` — a page and a term of an ordering.
* `Style.nested_ne` — a united statement with one of its own.
* `Query.lockUnites` — the one lock that can be mistaken for a united statement.
-/

namespace SqlWeave

namespace Style

/-! ## Ordering and page -/

/-- A page behind an ordering. -/
def pageText (s : Style) (p : Page) : String :=
  Text.attachedAll [s.limitSql p, s.offsetSql p]

variable {s : Style}

/-- A limit is a word and a number, so there is no parenthesis in it. -/
lemma limitSql_cases (s : Style) (p : Page) :
    s.limitSql p = "" ∨ ∃ t, s.limitSql p = "limit " ++ t ∧ Text.count ')' t = 0 := by
  unfold limitSql
  split
  · exact .inl rfl
  · exact .inr ⟨_, rfl, Text.count_toString rfl _⟩
  · exact .inr ⟨_, rfl, rfl⟩
  · exact .inr ⟨"-1", rfl, rfl⟩
  · exact .inl rfl

lemma offsetSql_cases (hs : s.wrapsArms = true) (p : Page) :
    s.offsetSql p = "" ∨ ∃ t, s.offsetSql p = "offset " ++ t ∧ Text.count ')' t = 0 := by
  unfold offsetSql
  split
  · exact .inl rfl
  · rw [if_neg (dialect_ne_of_wrapsArms hs)]
    exact .inr ⟨_, rfl, Text.count_toString rfl _⟩

/-- A page has the characters of its limit and of its offset. -/
lemma count_pageText_eq {c : Char} (hc : isBlank c = false) (s : Style) (p : Page) :
    Text.count c (s.pageText p) = Text.count c (s.limitSql p) + Text.count c (s.offsetSql p) := by
  rw [pageText, Text.attachedAll, Text.attachedAll, Text.attachedAll, Text.count_append,
    Text.count_append, Text.count_attached hc, Text.count_attached hc]
  rfl

/-- A page has no parenthesis. -/
lemma count_pageText (hs : s.wrapsArms = true) (p : Page) : Text.count ')' (s.pageText p) = 0 := by
  have hlimit : Text.count ')' (s.limitSql p) = 0 := by
    obtain h | ⟨t, h, ht⟩ := limitSql_cases s p
    · rw [h]; rfl
    · rw [h, Text.count_append, ht]; rfl
  have hoffset : Text.count ')' (s.offsetSql p) = 0 := by
    obtain h | ⟨t, h, ht⟩ := offsetSql_cases hs p
    · rw [h]; rfl
    · rw [h, Text.count_append, ht]; rfl
  rw [count_pageText_eq rfl, hlimit, hoffset]

/-- In these dialects no ordering is made up, so an ordering is what is given. -/
lemma trailing_eq (hs : s.wrapsArms = true) (orders : List Order) (p : Page) :
    s.trailing orders p = Text.attached (s.orderList orders) ++ s.pageText p := by
  rw [trailing, ordering, if_neg (by simp [dialect_ne_of_wrapsArms hs]), Text.attachedAll, pageText]

/-- A page that is not everything is written. -/
lemma pageText_ne_empty (hs : s.wrapsArms = true) {p : Page} (hp : p.isAll = false) :
    s.pageText p ≠ "" := by
  have hdialect := dialect_ne_of_wrapsArms hs
  -- The words for a limit and an offset both have a t.
  have hword : 0 < Text.count 't' (s.limitSql p) + Text.count 't' (s.offsetSql p) := by
    obtain ⟨limit, offset⟩ := p
    cases offset with
    | some m =>
        simp only [offsetSql, hdialect, if_false, Text.count_append]
        exact Nat.lt_of_lt_of_le (by decide : 0 < Text.count 't' "offset ") (by omega)
    | none =>
        cases limit with
        | none => cases hp
        | some n =>
            have hlimit : s.limitSql ⟨some n, none⟩ = "limit " ++ toString n.toNat := by
              unfold limitSql
              split <;> simp_all
            rw [hlimit, Text.count_append]
            exact Nat.lt_of_lt_of_le (by decide : 0 < Text.count 't' "limit ") (by omega)
  intro hempty
  rw [← count_pageText_eq rfl, hempty] at hword
  exact absurd hword (by decide)

/-- The page of everything is not. -/
@[simp] lemma pageText_all (s : Style) : s.pageText .all = "" := by
  obtain ⟨dialect, quoting, tablePrefix⟩ := s
  cases dialect <;> rfl

/-- A page before a closing parenthesis is not one behind it. -/
lemma page_apart (hs : s.wrapsArms = true) {p : Page} (hp : p.isAll = false) (w : String)
    (orders : List Order) (before after : Page) :
    s.pageText p ++ (w ++ (")" ++ s.trailing orders before))
      ≠ w ++ (")" ++ s.trailing orders after) := by
  have hmark : 0 < Text.count ')' (w ++ (")" ++ Text.attached (s.orderList orders))) := by
    rw [Text.count_append, Text.count_append, show Text.count ')' ")" = 1 from rfl]
    omega
  have hne := Text.append_ne_of_mark (pageText_ne_empty hs hp) hmark (count_pageText hs before)
    (count_pageText hs after)
  simpa only [trailing_eq hs, String.append_assoc] using hne

/-- One more term at the end of an ordering. -/
lemma orderList_concat {orders : List Order} (h : orders ≠ []) (o : Order) :
    s.orderList (orders ++ [o]) = s.orderList orders ++ ", " ++ s.orderSql o := by
  have hmap : orders.map s.orderSql ≠ [] := by simpa using h
  rw [orderList, orderList, if_neg (by simp), if_neg (by simpa using h), List.map_append,
    String.intercalate_append_of_ne_nil hmap (by simp), List.map_singleton,
    String.intercalate_singleton, ← String.append_assoc, ← String.append_assoc]

/-- The first term brings the keyword. -/
lemma orderList_singleton (s : Style) (o : Order) :
    s.orderList [o] = "order by " ++ s.orderSql o := by
  rw [orderList, if_neg (by simp), List.map_singleton, String.intercalate_singleton]

/-- A direction ends in this letter, `asc` and `desc` alike. -/
lemma getLast?_orderList_column (s : Style) (column : String) (d : Direction) :
    (s.orderList [.column column d]).toList.getLast? = some 'c' := by
  have hword : d.text.toList.getLast? = some 'c' := by cases d <;> rfl
  rw [orderList_singleton, orderSql]
  simp only [String.toList_append, List.getLast?_append, hword, Option.some_or]

lemma tight_orderList_column (s : Style) (column : String) (d : Direction) :
    Text.Tight (s.orderList [.column column d]) := by
  refine ⟨?_, 'c', getLast?_orderList_column s column d, rfl⟩
  rw [orderList_singleton, String.toList_append]
  exact Chars.Opens.append ⟨'o', rfl, rfl⟩ _

/-- A term of an ordering before a closing parenthesis is not one behind it. -/
lemma order_apart (hs : s.wrapsArms = true) (w column : String) (d : Direction)
    (orders : List Order) (p : Page) :
    s.trailing [.column column d] .all ++ (w ++ (")" ++ s.trailing orders p))
      ≠ w ++ (")" ++ s.trailing (orders ++ [.column column d]) p) := by
  intro heq
  simp only [trailing_eq hs, pageText_all, String.append_empty] at heq
  by_cases horders : orders = []
  · -- The one text ends with the parenthesis, the other with the direction.
    subst horders
    have htext : Text.attached (s.orderList [.column column d]) ++ (w ++ ")")
        = w ++ (")" ++ Text.attached (s.orderList [.column column d])) := by
      have hnone : Text.attached (s.orderList []) = "" := rfl
      simp only [hnone, List.nil_append, String.empty_append, ← String.append_assoc] at heq ⊢
      exact String.append_left_inj _ |>.mp heq
    have hlast := congrArg (fun t : String => t.toList.getLast?) htext
    simp only [(tight_orderList_column s column d).attached_eq, String.toList_append,
      List.getLast?_append, getLast?_orderList_column, Option.some_or] at hlast
    cases hlast
  · -- The list of terms behind the parenthesis has one more comma.
    have hcount := congrArg (Text.count ',') heq
    have hcomma : Text.count ',' ", " = 1 := rfl
    have hword : Text.count ',' "order by " = 0 := rfl
    simp only [Text.count_append, Text.count_attached (c := ',') rfl, orderList_concat horders,
      orderList_singleton, hcomma, hword] at hcount
    omega

/-! ## United statements in parentheses -/

/-- The text before a united statement and the text at the end do not tell two unions apart. -/
lemma addArmSql_append_inj {s : Style} (hs : s.wrapsArms = true) {w t t' u u' v : String}
    {all : Bool} : s.addArmSql w (all, t) ++ (u ++ v) = s.addArmSql w (all, t') ++ (u' ++ v) ↔
      t ++ (")" ++ u) = t' ++ (")" ++ u') := by
  have hcut : ∀ t u : String, s.addArmSql w (all, t) ++ (u ++ v)
      = w ++ (" " ++ ((if all then "union all" else "union") ++ " ("))
        ++ (t ++ (")" ++ u)) ++ v := by
    intro t u
    simp only [addArmSql_eq hs, String.append_assoc]
  rw [hcut, hcut, String.append_left_inj, String.append_right_inj]

end Style

/-! ## A union inside of a united statement -/

/-- Whether the lock is SQL text that begins like one more united statement. -/
def Query.lockUnites (q : Query) : Bool :=
  match q.lock with
  | some (.custom sql) => "union all (".toList.isPrefixOf (Text.trim sql).toList
  | _ => false

namespace Style

variable {s : Style} (hs : s.wrapsArms = true)
include hs

/-- An ordering and a page do not begin as one more united statement does, so such a beginning is
that of what stands behind them. -/
lemma begins_behind_trailing {orders : List Order} {p : Page} {z : List Char}
    (h : " union all (".toList <+: (s.trailing orders p).toList ++ z) :
    " union all (".toList <+: z := by
  have hordering : Text.Avoids 'u' (s.ordering orders p) := by
    rw [ordering, if_neg (by simp [dialect_ne_of_wrapsArms hs]), orderList]
    split_ifs
    · exact .inl rfl
    · exact Text.avoids_append ⟨'o', rfl, rfl, by decide⟩ _
  have hlimit : Text.Avoids 'u' (s.limitSql p) := by
    obtain h | ⟨t, h, -⟩ := limitSql_cases s p
    · exact .inl h
    · exact h ▸ Text.avoids_append ⟨'l', rfl, rfl, by decide⟩ t
  have hoffset : Text.Avoids 'u' (s.offsetSql p) := by
    obtain h | ⟨t, h, -⟩ := offsetSql_cases hs p
    · exact .inl h
    · exact h ▸ Text.avoids_append ⟨'o', rfl, rfl, by decide⟩ t
  simp only [trailing, Text.attachedAll, String.append_empty, String.toList_append,
    List.append_assoc] at h
  exact Text.begins_behind_attached hoffset (Text.begins_behind_attached hlimit
    (Text.begins_behind_attached hordering h))

/-- Only a lock that is SQL text can begin like one more united statement. -/
lemma lockUnites_of_begins {q : Query} {z : List Char} (hz : ∀ d ∈ z.head?, d = ')')
    (h : " union all (".toList <+: (s.lockTail q).toList ++ z) : q.lockUnites = true := by
  have hnot : ¬ " union all (".toList <+: z := by
    rintro ⟨e, rfl⟩
    exact absurd (hz ' ' rfl) (by decide)
  cases hlock : q.lock with
  | none =>
      simp only [lockTail, hlock] at h
      exact absurd h hnot
  | some l =>
      simp only [lockTail, hlock] at h
      cases l with
      -- Only here is the text the caller's own; the other locks begin with another letter.
      | custom sql =>
          have hsql : s.lockSql (.custom sql) = sql := by
            obtain h | h := dialect_of_wrapsArms hs <;> simp only [lockSql, h]
          rw [hsql, Text.attached] at h
          split_ifs at h with hblank
          · exact absurd h hnot
          · rw [String.toList_append, List.append_assoc] at h
            have hbegins := (List.prefix_append_right_inj " ".toList).mp h
            have hparen : "union all (".toList <+: (Text.trim sql).toList := by
              refine Text.begins_of_append hbegins fun d hd => ?_
              rw [hz d hd]
              decide
            simpa only [Query.lockUnites, hlock, List.isPrefixOf_iff_prefix] using hparen
      | exclusive =>
          have havoids : Text.Avoids 'u' (s.lockSql .exclusive) := by
            obtain h | h := dialect_of_wrapsArms hs <;> simp only [lockSql, h] <;>
              exact .inr ⟨'f', rfl, rfl, by decide⟩
          exact absurd (Text.begins_behind_attached havoids h) hnot
      | shared =>
          have havoids : Text.Avoids 'u' (s.lockSql .shared) := by
            obtain h | h := dialect_of_wrapsArms hs <;> simp only [lockSql, h]
            · exact .inr ⟨'l', rfl, rfl, by decide⟩
            · exact .inr ⟨'f', rfl, rfl, by decide⟩
          exact absurd (Text.begins_behind_attached havoids h) hnot

/-- The text of a query that is united with another one. -/
lemma united_eq_of_bare {q : Query} (hunion : q.hasUnion = false) {v : String}
    (h : s.united q = .ok v) : ∃ first, s.bare q none = .ok first ∧
      v = s.derivedHead q ++ ("(" ++ (first ++ s.trailing q.orders q.page) ++ ")") := by
  have harms : q.arms = [] := by simpa [Query.hasUnion] using hunion
  rw [united, members, harms, armTexts] at h
  cases hfirst : s.bare q none with
  | error e =>
      rw [hfirst] at h
      cases h
  | ok first =>
      rw [hfirst] at h
      cases h
      refine ⟨first, rfl, ?_⟩
      rw [List.foldl_nil, firstMember, if_pos hs]

/-- A function over the rows is written with no more parentheses than in front of a derived
table. -/
lemma exists_bare {q : Query} {first : String} (h : s.bare q none = .ok first) :
    ∃ w, s.bare q q.aggregate = .ok w ∧
      Text.count '(' w ≤ Text.count '(' (s.derivedHead q) + Text.count '(' first := by
  cases haggregate : q.aggregate with
  | none => exact ⟨first, h, Nat.le_add_left _ _⟩
  | some a =>
      obtain ⟨t, ht, h⟩ := ok_of_bind_ok h
      obtain ⟨head, -, h⟩ := ok_of_bind_ok h
      obtain ⟨rest, hrest, h⟩ := ok_of_bind_ok h
      cases h
      refine ⟨Text.phrase (s.aggregateHead q a :: s.fromSql t q.lock :: rest), ?_, ?_⟩
      · rw [bare, ht, hrest]
        rfl
      · simp only [Text.count_phrase_cons (c := '(') rfl, aggregateHead, topSql_eq_empty hs,
          derivedHead, haggregate, Text.count_append, Text.count_empty]
        omega

/-- One more statement with all of its rows. -/
lemma addArmSql_all (w u : String) :
    s.addArmSql w (true, u) = w ++ (" union all (" ++ (u ++ ")")) := by
  have hword : " " ++ ("union all" ++ " (") = " union all (" := rfl
  simp only [addArmSql_eq hs, if_true, ← hword, String.append_assoc]

/-- Only a lock that looks like one more united statement can take its place. -/
lemma lockUnites_of_eq {q : Query} {orders : List Order} {p : Page} {u y : String}
    (heq : " union all (" ++ u = s.trailing orders p ++ s.unionClosing q ++ (")" ++ y)) :
    q.lockUnites = true := by
  have hbegins : " union all (".toList
      <+: (s.trailing orders p ++ s.unionClosing q).toList ++ (")" ++ y).toList := by
    rw [← String.toList_append, ← heq, String.toList_append]
    exact List.prefix_append _ _
  have hparen : ∀ d ∈ (")" ++ y).toList.head?, d ∉ " union all (".toList := by
    rw [String.toList_append]
    rintro d ⟨⟩
    decide
  have hcut := Text.begins_of_append hbegins hparen
  rw [String.toList_append] at hcut
  have hlock := begins_behind_trailing hs hcut
  rw [unionClosing, String.toList_append] at hlock
  exact lockUnites_of_begins hs (by split_ifs <;> simp [String.toList_append]) hlock

/-- A union with one more united statement, in parentheses, against the two in one row. -/
lemma nested_ne_of_union {r : Query} (hlock : r.lockUnites = false) (v u : String) :
    s.addArmSql v (true, u) ++ (s.trailing r.unionOrders r.unionPage ++ s.unionClosing r) ++ ")"
      ≠ v ++ (s.trailing r.unionOrders r.unionPage ++ s.unionClosing r)
        ++ (")" ++ (" union all (" ++ (u ++ ")"))) := by
  intro heq
  have hmoved : " union all (" ++ (u ++ (")" ++ (s.trailing r.unionOrders r.unionPage
        ++ (s.unionClosing r ++ ")"))))
      = s.trailing r.unionOrders r.unionPage ++ s.unionClosing r
        ++ (")" ++ (" union all (" ++ (u ++ ")"))) := by
    rw [addArmSql_all hs] at heq
    simpa only [String.append_assoc, String.append_right_inj] using heq
  rw [lockUnites_of_eq hs hmoved] at hlock
  cases hlock

/-- A select becomes a union by parentheses around it. -/
lemma nested_ne_of_bare (r : Query) {first w : String}
    (hcount : Text.count '(' w ≤ Text.count '(' (s.derivedHead r) + Text.count '(' first)
    (u : String) :
    s.addArmSql (s.derivedHead r ++ ("(" ++ (first ++ s.trailing r.orders r.page) ++ ")")) (true, u)
        ++ (s.trailing r.unionOrders r.unionPage ++ s.unionClosing r) ++ ")"
      ≠ w ++ (s.trailing r.orders r.page ++ s.lockTail r)
        ++ (")" ++ (" union all (" ++ (u ++ ")"))) := by
  intro heq
  have hclosing : Text.count '(' (s.lockTail r) ≤ Text.count '(' (s.unionClosing r) := by
    rw [unionClosing, Text.count_append]
    omega
  have hparens := congrArg (Text.count '(') heq
  have hopen : Text.count '(' "(" = 1 := rfl
  have hunited : Text.count '(' " union all (" = 1 := rfl
  simp only [addArmSql_all hs, Text.count_append, hopen, hunited] at hparens
  omega

/-- A query that is written with one more united statement is written without it, and then this
statement does not stand behind it. -/
lemma nested_ne {r : Query} (hlock : r.hasUnion = true → r.lockUnites = false) {v : String}
    (hv : s.united r = .ok v) (u : String) :
    ∃ t, s.selectText r = .ok t ∧
      s.addArmSql v (true, u) ++ (s.trailing r.unionOrders r.unionPage ++ s.unionClosing r) ++ ")"
        ≠ t ++ (")" ++ (" union all (" ++ (u ++ ")"))) := by
  cases hunion : r.hasUnion with
  | true =>
      refine ⟨_, ?_, nested_ne_of_union hs (hlock hunion) v u⟩
      rw [selectText_eq_opening hs, opening, if_pos hunion, hv, Query.outerOrders, if_pos hunion,
        Query.outerPage, if_pos hunion, closing, if_pos hunion]
      rfl
  | false =>
      obtain ⟨first, hfirst, rfl⟩ := united_eq_of_bare hs hunion hv
      obtain ⟨w, hw, hcount⟩ := exists_bare hs hfirst
      refine ⟨_, ?_, nested_ne_of_bare hs r hcount u⟩
      rw [selectText_eq_bare hunion, hw]
      rfl

/-- A united statement with one of its own is not the same as two united statements, if its text
before the parenthesis is not. -/
lemma addArmSql_ne {all : Bool} {w t t' u x y : String}
    (hne : t ++ ")" ≠ t' ++ (")" ++ (" union all (" ++ (u ++ ")")))) :
    s.addArmSql w (all, t) ++ (x ++ y)
      ≠ s.addArmSql (s.addArmSql w (all, t')) (true, u) ++ (x ++ y) := by
  have hbehind : s.addArmSql (s.addArmSql w (all, t')) (true, u) ++ (x ++ y)
      = s.addArmSql w (all, t') ++ ((" union all (" ++ (u ++ ")") ++ x) ++ y) := by
    rw [addArmSql_all hs]
    generalize s.addArmSql w (all, t') = before
    simp only [String.append_assoc]
  rw [hbehind, Ne, addArmSql_append_inj hs]
  intro heq
  refine hne ((String.append_left_inj x).mp ?_)
  simpa only [String.append_assoc] using heq

end Style

end SqlWeave
