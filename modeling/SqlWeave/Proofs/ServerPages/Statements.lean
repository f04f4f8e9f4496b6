import SqlWeave.Proofs.BuiltParts
import SqlWeave.Proofs.Placeholder.Operators
import SqlWeave.Proofs.ServerPages.Places
import SqlWeave.Proofs.UnionAggregate

/-!
# Pages in statements for SQL Server

One page is written by several parts of the code, each of which looks at a limit or an offset for
itself.  In the statement of a program every page that is written stands where it belongs and
nowhere else, be it that of the statement itself, of a united statement or of a subquery at any
depth.

* `Query.paged` — a query with other pages.
* `Query.Place.compile_paged` — **how a statement depends on the pages at a place**.
* `server_pages_are_written_once` — the statement for callers.
-/

namespace SqlWeave

namespace Query

/-- The query with other pages. -/
def paged (q : Query) (page unionPage : Page) : Query :=
  { q with page := page, unionPage := unionPage }

/-- The pages that are there already. -/
@[simp] lemma paged_self (q : Query) : q.paged q.page q.unionPage = q := by
  cases q
  rfl

/-- What a statement takes from a query beside its text. -/
def heading (q : Query) : Style × StatementKind × Bindings × Option QueryError :=
  (q.style, q.kind, q.bindings, q.error)

variable {s : Style} {part : Query} {table : Table} {w : Style.Texts}

/-- Pages have no part in the texts of the clauses. -/
lemma selectText_paged (hs : s.dialect = .sqlServer) (hw : s.Writes part table w)
    (page unionPage : Page) : s.selectText (part.paged page unionPage)
      = .ok (s.derived part (s.serverSelect part table w page unionPage)) := by
  have hpaged : s.Writes (part.paged page unionPage) table w := { hw with }
  exact hpaged.selectText_eq hs

/-- A select that has a text and was not refused compiles to it, with all of its values. -/
lemma compile_eq_of_text {q : Query} {sql : String} (hkind : q.kind = .select)
    (herror : q.error = none) (htext : q.style.selectText q = .ok sql) :
    q.compile = .ok ⟨sql, q.bindings.flatten⟩ := by
  rw [compile_of_select hkind, validate, herror, Style.select, htext]
  rfl

namespace Place

variable {f : Query → Query} {st : Statement}

/-- The heading of a query is its own, unless the place is the whole query. -/
lemma heading_paged (hf : Place .select f) (r : Query) (page unionPage : Page) :
    (f (r.paged page unionPage)).heading = (f r).heading := by
  cases hf with
  | filter hf =>
      obtain ⟨q, hframe⟩ := exists_frame hf
      rw [hframe r, hframe (r.paged page unionPage)]
      rfl
  | _ => rfl

/-- **How a statement depends on the pages at a place.** -/
theorem compile_paged (hf : Place .select f) (hs : (f part).style.dialect = .sqlServer)
    (hkind : (f part).kind = .select) (h : (f part).compile = .ok st) :
    ∃ before table w after, (f part).style.Writes part table w ∧
      ∀ page unionPage, (f (part.paged page unionPage)).compile
        = .ok ⟨before ++ (f part).style.serverSelect part table w page unionPage ++ after,
          st.values⟩ := by
  obtain ⟨herror, htext, hvalues⟩ := ok_of_compile hkind h
  have hroot := selectable_of_text htext
  obtain ⟨table, w, hw⟩ := Style.exists_writes (s := (f part).style)
    (hroot.of_renders (hf.rendered part))
  obtain ⟨C, ⟨before, after, hC⟩, hlift⟩ :=
    hf.lifts hs (Style.around_derived Text.around_id part) hroot
  refine ⟨before, table, w, after, hw, fun page unionPage => ?_⟩
  have hsql := hlift _ _ (selectText_paged hs hw page unionPage)
  rw [hC _ (Style.tight_serverSelect hs part table w page unionPage)] at hsql
  have hheading := hf.heading_paged part page unionPage
  simp only [heading, Prod.mk.injEq] at hheading
  obtain ⟨hstyle, hkind', hbindings, herror'⟩ := hheading
  rw [compile_eq_of_text (hkind'.trans hkind) (herror'.trans herror) (by rwa [hstyle]), hbindings,
    hvalues]

end Place

end Query

/-! ## The statement -/

/-- **Every page of a statement for SQL Server is written once, where it belongs.**  A select that
is written, whether it is the statement itself, a united statement or a subquery at any depth,
stands at a place.  For each place, the statement is `Style.serverSelect` of what stands there
between two texts: a limit alone behind the first keywords, an offset with its limit behind an
ordering, which is `order by (select 0)` if there is none, and the page of a union behind the last
united statement in the second form.  With other pages at this place, there are other pages in these
positions, and all else stays as it is.  No page of a union is lost for want of a union. -/
theorem server_pages_are_written_once (p : Recipe) (hserver : p.style.dialect = .sqlServer)
    (hkind : p.build.kind = .select) {st : Statement} (h : p.build.compile = .ok st) :
    (∀ part, p.build.Renders part ↔ ∃ f, Query.Place .select f ∧ f part = p.build) ∧
      ∀ (f : Query → Query) (part : Query), Query.Place .select f → f part = p.build →
        (part.arms = [] → part.unionOrders = [] ∧ part.unionPage = .all) ∧
          ∃ before table w after, p.style.Writes part table w ∧
            st.sql = before ++ p.style.serverSelect part table w part.page part.unionPage ++ after ∧
            ∀ page unionPage, (f (part.paged page unionPage)).compile
              = .ok ⟨before ++ p.style.serverSelect part table w page unionPage ++ after,
                st.values⟩ := by
  refine ⟨fun part => Query.renders_iff_place, fun f part hf hpart => ⟨fun harms => ?_, ?_⟩⟩
  · have hwithin : part.Within p.build := hpart ▸ hf.within part
    have hno : part.hasUnion = false := by simp [Query.hasUnion, harms]
    obtain ⟨horders, hpage, -⟩ := (p.built_of_within hwithin).redirects.without hno
    exact ⟨horders, hpage⟩
  · rw [← p.style_build] at hserver ⊢
    rw [← hpart] at hserver hkind h ⊢
    obtain ⟨before, table, w, after, hw, hpaged⟩ := hf.compile_paged hserver hkind h
    refine ⟨before, table, w, after, hw, ?_, hpaged⟩
    have hsame := hpaged part.page part.unionPage
    rw [part.paged_self, h] at hsame
    exact congrArg Statement.sql (Except.ok.inj hsame)

/-- A paged union of a select with a limit and of one with a subquery, which has an offset and gets
a limit as well. -/
theorem server_pages_are_written_once_in_union :
    let inner : List Call := [.onTable "d", .setOffset 4]
    let p : Recipe := ⟨.plain .sqlServer, [.onTable "a", .setLimit 3,
      .addArmSub true [.onTable "c", .whereInSub "y" inner false .and], .setLimit 7]⟩
    let part := Call.runAll inner (Query.empty p.style)
    let text := "select top 3 * from [a] union all select * from [c] where [y] in "
      ++ "(select * from [d] order by (select 0) offset 4 rows) "
      ++ "order by (select 0) offset 0 rows fetch next 7 rows only"
    p.style.dialect = .sqlServer ∧ p.build.kind = .select ∧ p.build.Renders part ∧
      ∃ st, p.build.compile = .ok st ∧ st.sql = text ∧
        ∃ f before table w after, Query.Place .select f ∧ f part = p.build ∧
          st.sql = before ++ p.style.serverSelect part table w ⟨none, some 4⟩ .all ++ after ∧
          (f (part.paged ⟨some 9, some 4⟩ .all)).compile
            = .ok ⟨before ++ p.style.serverSelect part table w ⟨some 9, some 4⟩ .all ++ after,
              st.values⟩ := by
  intro inner p part text
  have hserver : p.style.dialect = .sqlServer := rfl
  have hkind : p.build.kind = .select := rfl
  have hrenders : p.build.Renders part := .head List.mem_cons_self (.single List.mem_cons_self)
  obtain ⟨st, hst, hsql⟩ : ∃ st, p.build.compile = .ok st ∧ st.sql = text :=
    exists_ok_of_toOption (by decide +kernel)
  have hwritten := server_pages_are_written_once p hserver hkind hst
  obtain ⟨f, hf, hpart⟩ := (hwritten.1 part).mp hrenders
  obtain ⟨-, before, table, w, after, -, htext, hpaged⟩ := hwritten.2 f part hf hpart
  exact ⟨hserver, hkind, hrenders, st, hst, hsql, f, before, table, w, after, hf, hpart, htext,
    hpaged _ _⟩

end SqlWeave
