import SqlWeave.Proofs.Placeholder.Neat
import SqlWeave.Sql.Clause

/-!
# Styles that write names alike

All dialects but one put the clauses of a select into the same places, and where their quoting is
the same they differ only in what is named by a dialect of its own: a place inside of a document, a
random order, a lock of their own, an offset without a limit.  Without these every clause is written
alike.

* `Style.Shared` — **the styles that are compared**: same quotes, same table prefix.
* `Text.Flat`, `Predicate.Portable`, `Having.Portable`, `Order.Portable`, `Lock.Portable`,
  `Page.Bounded` — clauses without what a dialect has of its own.
* `Style.Shared.column_eq` and the like — one lemma for each clause.
-/

namespace SqlWeave

/-! ## Names without arrows -/

namespace Chars

/-- An arrow is still there when a character is put in front. -/
lemma hasArrow_cons {s : List Char} (h : hasArrow s = true) (c : Char) :
    hasArrow (c :: s) = true := by
  rw [hasArrow.eq_def]
  split
  · rfl
  · next hcons => exact (List.cons.inj hcons).2 ▸ h
  · next hnil => cases hnil

/-- An arrow is still there when the text goes on. -/
lemma hasArrow_append {s : List Char} (h : hasArrow s = true) (t : List Char) :
    hasArrow (s ++ t) = true := by
  fun_induction hasArrow s with
  | case1 r => rfl
  | case2 c r _ ih => exact hasArrow_cons (ih h) c
  | case3 => cases h

/-- What stands before an alias stands at the front of the whole. -/
lemma prefix_of_splitAlias? {s l r : List Char} (h : splitAlias? s = some (l, r)) : l <+: s := by
  induction s generalizing l r with
  | nil => cases h
  | cons c t ih =>
      rw [splitAlias?, Option.or_eq_some_iff, Option.map_eq_some_iff, Option.map_eq_some_iff] at h
      simp only [Prod.mk.injEq] at h
      rcases h with ⟨rest, -, rfl, rfl⟩ | ⟨-, ⟨l', r'⟩, ht, rfl, rfl⟩
      · exact List.nil_prefix
      · exact List.cons_prefix_cons.mpr ⟨rfl, ih ht⟩

end Chars

namespace Text

/-- A column name that means no place inside of a document. -/
def Flat (name : String) : Prop :=
  hasArrow name = false

instance (name : String) : Decidable (Flat name) :=
  inferInstanceAs (Decidable (_ = _))

variable {name left right : String}

/-- The name in front of an alias has no arrow if the whole has none. -/
lemma Flat.splitAlias? (h : Flat name) (hsplit : Text.splitAlias? name = some (left, right)) :
    Flat left := by
  simp only [Text.splitAlias?, Option.map_eq_some_iff, Prod.mk.injEq] at hsplit
  obtain ⟨⟨l, r⟩, hchars, rfl, rfl⟩ := hsplit
  obtain ⟨t, ht⟩ := Chars.prefix_of_splitAlias? hchars
  rw [Flat, hasArrow, ← Bool.not_eq_true] at h ⊢
  intro harrow
  rw [String.toList_ofList] at harrow
  exact h (ht ▸ Chars.hasArrow_append harrow t)

/-- A plain name is in one piece when it is cut at its arrows. -/
lemma Flat.arrowPieces_eq (h : Flat name) : ∃ piece, arrowPieces name = [piece] := by
  have hfew : ¬1 < (arrowPieces name).length := by
    rw [← hasArrow_iff, h]
    exact Bool.false_ne_true
  have hpos : 0 < (arrowPieces name).length := by
    rw [arrowPieces, List.length_map]
    exact List.length_pos_iff.mpr (Chars.arrowPieces_ne_nil _)
  exact List.length_eq_one_iff.mp (by omega)

end Text

/-! ## Clauses without anything of a dialect's own -/

/-- A predicate over plain columns that holds no query. -/
def Predicate.Portable : Predicate → Prop
  | .compare column .. | .isIn column .. | .isNull column .. | .between column .. =>
    Text.Flat column
  | .columns first _ second _ => Text.Flat first ∧ Text.Flat second
  | .raw .. => True
  | .isInSub .. | .nested .. | .compareSub .. | .exists .. => False

/-- A predicate on groups over plain columns. -/
def Having.Portable : Having → Prop
  | .compare column .. | .between column .. => Text.Flat column
  | .raw .. => True

/-- An ordering by plain columns, not at random. -/
def Order.Portable : Order → Prop
  | .column name _ => Text.Flat name
  | .raw _ => True
  | .random _ => False

/-- A lock that is given as text. -/
def Lock.Portable : Lock → Prop
  | .custom _ => True
  | .exclusive | .shared => False

/-- An offset has a limit. -/
def Page.Bounded (p : Page) : Prop :=
  p.offset.isSome → p.limit.isSome

instance (p : Page) : Decidable p.Bounded :=
  inferInstanceAs (Decidable (_ → _))

/-! ## The styles -/

/-- **Styles that write names alike**: not that of the dialect with other places for its clauses,
with double quotes, and with a given table prefix.  Three of the four dialects have double quotes
unless told otherwise, and the fourth has them if told so. -/
structure Style.Shared (s : Style) (p : String) : Prop where
  dialect : s.dialect ≠ .sqlServer
  quoting : s.quoting = .ansi
  tablePrefix : s.tablePrefix = p

namespace Style

/-! ### A name with an alias -/

variable {name left label : String}

/-- A table with an alias is that table, `as` and the alias, which is prefixed like a table. -/
lemma table_of_alias (s : Style) (h : Text.splitAlias? name = some (left, label)) :
    s.table name = s.table left ++ " as " ++ s.prefixed label := by
  rw [table.eq_def]
  split
  · next heq =>
      obtain ⟨rfl, rfl⟩ := Prod.mk.inj (Option.some.inj (heq.symm.trans h))
      rfl
  · next heq => rw [heq] at h; cases h

/-- A table without an alias is its parts, and the prefix is on the last one. -/
lemma table_of_bare (s : Style) (h : Text.splitAlias? name = none) :
    s.table name = s.bareTable name := by
  rw [table.eq_def]
  split
  · next heq => rw [heq] at h; cases h
  · rfl

/-- A column with an alias.  In contrast to that of a table, its alias has no prefix. -/
lemma column_of_alias (s : Style) (h : Text.splitAlias? name = some (left, label)) :
    s.column name = s.column left ++ " as " ++ s.segment label := by
  rw [column.eq_def]
  split
  · next heq =>
      obtain ⟨rfl, rfl⟩ := Prod.mk.inj (Option.some.inj (heq.symm.trans h))
      rfl
  · next heq => rw [heq] at h; cases h

/-- A column without an alias may still be a place inside of a document. -/
lemma column_of_bare (s : Style) (h : Text.splitAlias? name = none) :
    s.column name = s.bareColumn name := by
  rw [column.eq_def]
  split
  · next heq => rw [heq] at h; cases h
  · rfl

end Style

namespace Style.Shared

variable {p : String} {s s' : Style} (hs : s.Shared p) (hs' : s'.Shared p)

include hs hs'

/-! ### Names -/

lemma segment_eq (part : String) : s.segment part = s'.segment part := by
  rw [segment, segment, hs.quoting, hs'.quoting]

/-- One part of a name that names a table, with the prefix. -/
lemma prefixed_eq (part : String) : s.prefixed part = s'.prefixed part := by
  rw [prefixed, prefixed, hs.tablePrefix, hs'.tablePrefix, hs.segment_eq hs']

lemma bareTable_eq (name : String) : s.bareTable name = s'.bareTable name := by
  simp only [bareTable, hs.segment_eq hs', hs.prefixed_eq hs']

/-- **A table** with or without an alias. -/
lemma table_eq (name : String) : s.table name = s'.table name := by
  -- On the alias: what stands in front of it is a table again.
  fun_induction s.table name with
  | case1 name left label hsplit ih =>
      rw [table_of_alias s' hsplit, ih, hs.prefixed_eq hs']
  | case2 name hsplit => rw [table_of_bare s' hsplit, hs.bareTable_eq hs']

lemma tableSql_eq (t : Table) : s.tableSql t = s'.tableSql t := by
  cases t with
  | named name => exact hs.table_eq hs' name
  | raw sql => rfl

/-- A dotted name, whose first part is a table. -/
lemma dotted_eq (name : String) : s.dotted name = s'.dotted name := by
  have htable : s.table = s'.table := funext (hs.table_eq hs')
  have hsegment : s.segment = s'.segment := funext (hs.segment_eq hs')
  have hqualified : s.qualified = s'.qualified := by
    funext parts
    rw [qualified.eq_def, qualified.eq_def, htable, hsegment]
  rw [dotted, dotted, hqualified]

/-- A name without an arrow is a dotted name in every dialect. -/
lemma bareColumn_eq {name : String} (h : Text.Flat name) :
    s.bareColumn name = s'.bareColumn name := by
  obtain ⟨piece, hpieces⟩ := h.arrowPieces_eq
  simp only [bareColumn, hpieces, hs.dotted_eq hs']

/-- **A column.**  The dialects write places inside of documents differently, so the name has to be
plain. -/
lemma column_eq {name : String} (h : Text.Flat name) : s.column name = s'.column name := by
  fun_induction s.column name with
  | case1 name left label hsplit ih =>
      rw [column_of_alias s' hsplit, ih (h.splitAlias? hsplit), hs.segment_eq hs']
  | case2 name hsplit => rw [column_of_bare s' hsplit, hs.bareColumn_eq hs' h]

lemma columnList_eq {names : List String} (h : ∀ n ∈ names, Text.Flat n) :
    s.columnList names = s'.columnList names := by
  rw [columnList, columnList, List.map_congr_left fun n hn => hs.column_eq hs' (h n hn)]

/-! ### Clauses -/

/-- A predicate on groups, if it is over a plain column. -/
lemma havingSql_eq {h : Having} (hh : h.Portable) : s.havingSql h = s'.havingSql h := by
  cases h with
  | compare column operator operand c => simp only [havingSql, hs.column_eq hs' hh]
  | raw sql c => rfl
  | between column low high c => simp only [havingSql, hs.column_eq hs' hh]

lemma havingList_eq {havings : List Having} (h : ∀ h ∈ havings, h.Portable) :
    s.havingList havings = s'.havingList havings := by
  rw [havingList, havingList]
  congr 1
  exact List.map_congr_left fun h' hh' => congrArg (Prod.mk _) (hs.havingSql_eq hs' (h h' hh'))

/-- A term of an ordering.  Each dialect has its own random order, so there must be none. -/
lemma orderSql_eq {o : Order} (h : o.Portable) : s.orderSql o = s'.orderSql o := by
  cases o with
  | column name direction => simp only [orderSql, hs.column_eq hs' h]
  | raw sql => rfl
  | random seed => exact h.elim

/-- Only one dialect makes up an ordering where there is none, and it is left out here. -/
lemma ordering_eq {orders : List Order} (h : ∀ o ∈ orders, o.Portable) (page : Page) :
    s.ordering orders page = s'.ordering orders page := by
  have hterms : orders.map s.orderSql = orders.map s'.orderSql :=
    List.map_congr_left fun o ho => hs.orderSql_eq hs' (h o ho)
  simp only [ordering, hs.dialect, hs'.dialect, false_and, if_false, orderList, hterms]

/-- Only one dialect limits a select in its head. -/
lemma topSql_eq (page : Page) : s.topSql page = s'.topSql page := by
  have hnone : ∀ {s : Style}, s.dialect ≠ .sqlServer → s.topSql page = "" := by
    intro s hdialect
    rw [topSql]
    split
    · next heq _ _ => exact absurd heq hdialect
    · rfl
  rw [hnone hs.dialect, hnone hs'.dialect]

/-- A limit.  Without one, an offset would need a limit that each dialect makes up for itself. -/
lemma limitSql_eq {page : Page} (h : page.Bounded) : s.limitSql page = s'.limitSql page := by
  have hlimit : ∀ {s : Style}, s.dialect ≠ .sqlServer →
      s.limitSql page = (page.limit.map fun n => "limit " ++ toString n.toNat).getD "" := by
    intro s hdialect
    obtain ⟨limit, offset⟩ := page
    cases limit with
    | some n => cases hd : s.dialect <;> simp_all [limitSql]
    | none =>
        have hoffset : offset = none := by simpa [Page.Bounded] using h
        cases hd : s.dialect <;> simp_all [limitSql]
  rw [hlimit hs.dialect, hlimit hs'.dialect]

lemma offsetSql_eq (page : Page) : s.offsetSql page = s'.offsetSql page := by
  simp only [offsetSql, hs.dialect, hs'.dialect, if_false]

/-- The table of a select.  Only one dialect has a hint for the lock there. -/
lemma fromSql_eq (t : Table) (l : Option Lock) : s.fromSql t l = s'.fromSql t l := by
  have hnone : ∀ {s : Style}, s.dialect ≠ .sqlServer → s.lockHint l = "" := by
    intro s hdialect
    cases hd : s.dialect <;> simp_all [lockHint]
  rw [fromSql, fromSql, hs.tableSql_eq hs', hnone hs.dialect, hnone hs'.dialect]

/-- A lock at the end, if it is given as text. -/
lemma lockSql_eq {l : Lock} (h : l.Portable) : s.lockSql l = s'.lockSql l := by
  cases l with
  | exclusive | shared => exact h.elim
  | custom sql =>
      have hsql : ∀ {s : Style}, s.dialect ≠ .sqlServer → s.lockSql (.custom sql) = sql := by
        intro s hdialect
        cases hd : s.dialect <;> simp_all [lockSql]
      rw [hsql hs.dialect, hsql hs'.dialect]

lemma aggregateCall_eq {a : Aggregate} (h : ∀ n ∈ a.columns, Text.Flat n) (distinct : Bool) :
    s.aggregateCall distinct a = s'.aggregateCall distinct a := by
  simp only [aggregateCall, hs.columnList_eq hs' h]

/-- An assignment to a plain column.  The dialects differ only in how they assign to a place inside
of a document. -/
lemma assignment_eq {column : String} (h : Text.Flat column) (operand : Param) :
    s.assignment column operand = s'.assignment column operand := by
  obtain ⟨piece, hpieces⟩ := h.arrowPieces_eq
  have hplain : ∀ s : Style, s.assignment column operand = s.plainAssignment column operand := by
    intro s
    rw [assignment, hpieces]
    cases s.dialect <;> rfl
  rw [hplain, hplain, plainAssignment, plainAssignment, hs.column_eq hs' h]

end Style.Shared

end SqlWeave
