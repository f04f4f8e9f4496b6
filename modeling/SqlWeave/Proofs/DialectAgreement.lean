import SqlWeave.Proofs.Families
import SqlWeave.Proofs.Portability.Runs
import SqlWeave.Proofs.UnionArms.Fragments
import SqlWeave.Sql.Write

/-!
# One program in several dialects

A dialect changes only what it has of its own.  A program that uses nothing of this kind is written
letter by letter alike in all dialects but one, with the same values, if names are quoted alike:
clauses stand at the same places everywhere, and the fragments that one dialect puts a change
together from come out as the same text, since those that only it has are blank.

* `Query.Common` — the statements that the dialects put together alike.
* `Style.Shared.update_eq`, `Style.Shared.delete_eq` — changes to one table.
* `dialects_agree` — **one program in two dialects**.
-/

namespace SqlWeave

variable {p : String}

/-! ## Statements that dialects put together alike -/

/-- A change to one named table, of all the rows that its predicates choose. -/
structure Query.OneTable (q : Query) (name : String) : Prop where
  table : q.table = some (.named name)
  joins : q.joins = []
  orders : q.orders = []
  limit : q.page.limit = none

/-- A select, an insertion that is to report no key, or a change to one named table. -/
def Query.Common (q : Query) : Prop :=
  match q.kind with
  | .select => True
  | .insert => q.sequence = none
  | .update | .delete => ∃ name, q.OneTable name

/-! ## Names of tables -/

namespace Style.Shared

variable {s s' : Style} {q q' : Query} {name : String}

section Closes

variable (hs : s.Shared p)

include hs

/-- A quoted part ends with its quote, or is the asterisk. -/
lemma closes_segment (part : String) : Chars.Closes (s.segment part).toList := by
  rw [segment, hs.quoting, Quoting.segment]
  split_ifs with hstar
  · subst hstar
    exact ⟨'*', rfl, by decide⟩
  · rw [String.toList_append]
    exact Chars.Closes.append ⟨'"', rfl, by decide⟩ _

/-- A name of two parts ends as its second part does. -/
lemma closes_bareTable (name : String) : Chars.Closes (s.bareTable name).toList := by
  rw [bareTable]
  split
  · rw [String.toList_append]
    exact (hs.closes_segment _).append _
  · exact hs.closes_segment _

/-- A name does not end with a blank. -/
lemma closes_table (name : String) : Chars.Closes (s.table name).toList := by
  cases hsplit : Text.splitAlias? name with
  | none =>
      rw [table_of_bare s hsplit]
      exact hs.closes_bareTable name
  | some sides =>
      rw [table_of_alias s hsplit, String.toList_append]
      exact (hs.closes_segment _).append _

/-- The first fragment of a change. -/
lemma tight_start {keyword : String} (hkeyword : Chars.Opens keyword.toList) (name : String) :
    Text.Tight (keyword ++ s.table name) := by
  rw [Text.Tight, String.toList_append]
  exact ⟨hkeyword.append _, (hs.closes_table name).append _⟩

end Closes

/-! ## Changes to one table

One dialect writes the assignments as a fragment of their own and adds an ordering and a limit.
Where there is neither of these, and no join, nothing of it is left to see. -/

section Changes

variable (hs : s.Shared p) (hq : q.OneTable name)

include hs hq

/-- Without an ordering and without a limit there is no tail in any dialect. -/
lemma changeTail_eq_empty : s.changeTail q = "" := by
  have hpage : s.limitSql ⟨none, none⟩ = "" := by
    rw [limitSql]
    cases s.dialect <;> rfl
  rw [changeTail, hq.orders, hq.limit, hpage, ordering, if_neg fun h => hs.dialect h.1]
  rfl

/-- **The update of one table** is put together alike, and its values with it. -/
lemma update_eq (hjoin : q.bindings.join = []) (horder : q.bindings.order = []) :
    s.update q = s.assignmentList q >>= fun set => (s.filterSql q).map fun filter =>
      ⟨Text.phrase ["update " ++ s.table name, "set " ++ set.1, filter],
        set.2 ++ q.bindings.filter⟩ := by
  have hstart : Text.Tight ("update " ++ s.table name) :=
    hs.tight_start ⟨'u', rfl, by decide⟩ name
  have hset : ∀ set : String, Chars.Opens ("set " ++ set).toList := by
    intro set
    rw [String.toList_append]
    exact Chars.Opens.append ⟨'s', rfl, by decide⟩ _
  -- Blank fragments leave no trace, and a phrase may be cut before its assignments.
  have hlast : ∀ set filter : String,
      Text.phrase ["update " ++ s.table name, "", "set " ++ set, filter, ""]
        = Text.phrase ["update " ++ s.table name, "set " ++ set, filter] := by
    intro set filter
    simp only [Text.phrase_cons_of_tight hstart, Text.attachedAll, Text.attached_empty,
      String.empty_append, String.append_empty]
  have hcut : ∀ set filter : String,
      Text.phrase ["update " ++ s.table name ++ " set " ++ set, "", filter]
        = Text.phrase ["update " ++ s.table name, "set " ++ set, filter] := by
    intro set filter
    have hsplit : "update " ++ s.table name ++ " set " ++ set
        = "update " ++ s.table name ++ " " ++ ("set " ++ set) := by
      simp only [String.append_assoc]
      rfl
    rw [hsplit, Text.phrase_cut hstart (hset set)]
    simp only [Text.phrase_cons_of_tight hstart, Text.attachedAll, Text.attached_empty,
      String.empty_append]
  have hjoined : s.joinsSql q = .ok "" := by
    rw [joinsSql, hq.joins]
    rfl
  rw [update, Query.requireTable, hq.table, hjoined]
  cases s.assignmentList q with
  | error e => rfl
  | ok written =>
      obtain ⟨set, values⟩ := written
      cases s.filterSql q with
      | error e => rfl
      | ok filter =>
          by_cases hdialect : s.dialect = .mysql
          · have hbindings : q.bindings.join ++ values ++ q.bindings.filter ++ q.bindings.order
                = values ++ q.bindings.filter := by
              rw [hjoin, horder, List.nil_append, List.append_nil]
            refine (if_pos hdialect).trans ?_
            rw [tableSql, hs.changeTail_eq_empty hq, hlast, hbindings]
            rfl
          · have hbindings : values ++ q.bindings.join ++ q.bindings.filter
                = values ++ q.bindings.filter := by
              rw [hjoin, List.append_nil]
            refine (if_neg hdialect).trans ((if_neg fun h => hs.dialect h.1).trans ?_)
            rw [tableSql, hcut, hbindings]
            rfl

/-- **The delete from one table** likewise. -/
lemma delete_eq (horder : q.bindings.order = []) :
    s.delete q = (s.filterSql q).map fun filter =>
      ⟨Text.phrase ["delete from " ++ s.table name, filter], q.bindings.filter⟩ := by
  have hstart : Text.Tight ("delete from " ++ s.table name) :=
    hs.tight_start ⟨'d', rfl, by decide⟩ name
  have hlast : ∀ filter : String, Text.phrase ["delete from " ++ s.table name, filter, ""]
      = Text.phrase ["delete from " ++ s.table name, filter] := by
    intro filter
    simp only [Text.phrase_cons_of_tight hstart, Text.attachedAll, Text.attached_empty,
      String.append_empty]
  have hplain : s.delete q = s.deletePlain q (.named name) := by
    rw [delete, Query.requireTable, hq.table]
    exact if_pos (by rw [hq.joins]; rfl)
  rw [hplain, deletePlain]
  cases s.filterSql q with
  | error e => rfl
  | ok filter =>
      by_cases hdialect : s.dialect = .mysql
      · refine (if_pos hdialect).trans ?_
        rw [tableSql, hs.changeTail_eq_empty hq, hlast, horder, List.append_nil]
        rfl
      · exact if_neg hdialect

end Changes

end Style.Shared

/-! ## Twins -/

namespace Query.Twin

variable {q q' : Query} {s s' : Style}

section Written

variable (h : q.Twin p q') (hs : s.Shared p) (hs' : s'.Shared p)

include h hs hs'

/-- An insertion is written from the table and the rows, and both are shared. -/
lemma insert_eq : s.insert q = s'.insert q' := by
  have htable : q.requireTable = q'.requireTable := by
    rw [requireTable, requireTable, h.table_eq, h.kind_eq]
  rw [Style.insert, Style.insert, htable]
  simp only [← h.inserted_eq, hs.tableSql_eq hs', hs.columnList_eq hs' h.portable.insertion]

/-- The predicates are written alike, under the same keyword. -/
lemma filterSql_eq : s.filterSql q = s'.filterSql q' := by
  rw [Style.filterSql, Style.filterSql, h.predicateTexts_eq hs hs', h.isJoin_eq]

/-- The assignments are written alike, each with its column. -/
lemma assignmentList_eq : s.assignmentList q = s'.assignmentList q' := by
  have hwritten : q.assignments.map (fun a => s.assignment a.1 a.2)
      = q.assignments.map fun a => s'.assignment a.1 a.2 :=
    List.map_congr_left fun a ha => hs.assignment_eq hs' (h.portable.assignments a ha) a.2
  simp only [Style.assignmentList, ← h.assignments_eq, hwritten]

end Written

/-- What is one table for a query is one for its twin. -/
lemma oneTable {name : String} (h : q.Twin p q') (hq : q.OneTable name) : q'.OneTable name where
  table := h.table_eq ▸ hq.table
  joins := List.forall₂_nil_left_iff.mp (hq.joins ▸ h.joins)
  orders := h.orders_eq ▸ hq.orders
  limit := h.page_eq ▸ hq.limit

/-- **Twins are the same statement.** -/
theorem compile_eq (h : q.Twin p q') (hs : q.style.Shared p) (hs' : q'.style.Shared p)
    (hpage : q.page.Bounded) (hcommon : q.Common) : q.compile = q'.compile := by
  have hvalidate : q.validate = q'.validate := by
    rw [validate, validate, h.error_eq]
  rw [compile, compile, hvalidate, ← h.kind_eq, ← h.sequence_eq]
  congr 1
  funext _
  rw [Common] at hcommon
  cases hkind : q.kind with
  | select =>
      simp only [Style.select, h.selectText_eq hs hs' hpage, h.bindings_eq]
  | insert =>
      rw [hkind] at hcommon
      simp only [show q.sequence = none from hcommon]
      exact h.insert_eq hs hs'
  | update =>
      rw [hkind] at hcommon
      obtain ⟨name, hq⟩ := hcommon
      have hjoin := h.portable.joinValues hq.joins
      have horder := h.portable.orderValues hq.orders
      simp only [hs.update_eq hq hjoin horder, hs'.update_eq (h.oneTable hq)
        (h.bindings_eq ▸ hjoin) (h.bindings_eq ▸ horder), h.assignmentList_eq hs hs',
        h.filterSql_eq hs hs', hs.table_eq hs', h.bindings_eq]
  | delete =>
      rw [hkind] at hcommon
      obtain ⟨name, hq⟩ := hcommon
      have horder := h.portable.orderValues hq.orders
      simp only [hs.delete_eq hq horder, hs'.delete_eq (h.oneTable hq) (h.bindings_eq ▸ horder),
        h.filterSql_eq hs hs', hs.table_eq hs', h.bindings_eq]

end Query.Twin

/-! ## The statement -/

/-- **Dialects agree.**  A program without anything of a dialect's own is run in a style and, with
other styles for all the queries inside of it too, in a second style that writes names alike.  Its
query is any select, an insertion that is to report no key, or a change to one named table.  Then
both statements are the same, letter by letter and with the same values, or refused alike. -/
theorem dialects_agree {r : Recipe} (hr : r.Portable) {f : Style → Style}
    (hs : r.style.Shared p) (hs' : (f r.style).Shared p) (hcommon : r.build.Common) :
    r.build.compile = (r.restyle f).build.compile := by
  have hstyle : (r.restyle f).build.style = f r.style := by
    rw [Recipe.style_build, Recipe.style_restyle]
  exact (Recipe.twin_build f hr).compile_eq (r.style_build ▸ hs) (hstyle ▸ hs')
    (Recipe.bounded_build hr) hcommon

/-- A report with a function over the rows of a subquery, a group in a join, a page inside of a
group and raw texts, and the three changes, in four dialects with a table prefix. -/
theorem dialects_agree_report :
    let ansi : Style := ⟨.ansi, none, "x_"⟩
    let others : List Style :=
      [⟨.postgres, none, "x_"⟩, ⟨.sqlite, none, "x_"⟩, ⟨.mysql, some .ansi, "x_"⟩]
    let posts : Recipe :=
      ⟨ansi, [.onTable "posts", .whereColumns "author" "=" "u.id" .and, .toAggregate "count" ["*"]]⟩
    let teams : List Call := [.onTable "teams", .select [.name "id"], .setOffset 2, .setLimit 3]
    let report : Recipe := ⟨ansi, [.onTable "users as u", .select [.name "u.id", .sub posts "n"],
      .addJoin .left "notes as p" [.on "u.id" "=" "p.user" .and, .group [.whereNull "gone" false]],
      .whereGroup [.whereCompare "u.name" "LIKE" (.value (.text "a%")) .and,
        .whereInSub "team" teams false .or] .and,
      .groupBy [.name "u.id"], .havingRaw "sum(size) > ?" [.int 5] .and, .orderBy "u.id" .desc]⟩
    let insertion : Recipe := ⟨ansi, [.onTable "tags",
      .insertRow [("name", .value (.text "a")), ("rank", .value (.int 1))]]⟩
    let update : Recipe := ⟨ansi, [.onTable "users as u", .setAssignments [("name", .raw " 'b' ")],
      .whereEq "u.id" (.value (.int 7)) .and]⟩
    let deletion : Recipe := ⟨ansi, [.onTable "users", .whereNull "name" false .and, .makeDelete]⟩
    (∀ r ∈ [report, insertion, update, deletion], ∀ s ∈ others,
      r.build.compile = (r.restyle fun _ => s).build.compile) ∧
    report.build.toSql.isOk = true ∧
    update.build.toSql
      = .ok "update \"x_users\" as \"x_u\" set \"name\" =  'b' where \"x_u\".\"id\" = ?" := by
  intro ansi others posts teams report insertion update deletion
  have hansi : ansi.Shared "x_" := ⟨nofun, rfl, rfl⟩
  have hothers : ∀ s ∈ others, s.Shared "x_" := by
    simp only [others, List.forall_mem_cons]
    exact ⟨⟨nofun, rfl, rfl⟩, ⟨nofun, rfl, rfl⟩, ⟨nofun, rfl, rfl⟩, nofun⟩
  have hagree : ∀ r : Recipe, r.style = ansi → r.Portable → r.build.Common → ∀ s ∈ others,
      r.build.compile = (r.restyle fun _ => s).build.compile :=
    fun r hr hportable hcommon s hs =>
      dialects_agree hportable (hr ▸ hansi) (hothers s hs) hcommon
  refine ⟨?_, by decide +kernel, by decide +kernel⟩
  simp only [List.forall_mem_cons]
  refine ⟨hagree report rfl ?_ trivial, hagree insertion rfl ?_ rfl,
    hagree update rfl ?_ ⟨_, rfl, rfl, rfl, rfl⟩, hagree deletion rfl ?_ ⟨_, rfl, rfl, rfl, rfl⟩,
    nofun⟩
  all_goals
    simp only [report, posts, teams, insertion, update, deletion, Recipe.Portable,
      Call.PortableAll, Call.Portable, JoinCall.PortableAll, JoinCall.Portable,
      Selection.PortableAll, Selection.Portable]
    decide +kernel

end SqlWeave
