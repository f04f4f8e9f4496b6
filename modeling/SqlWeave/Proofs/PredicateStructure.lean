import SqlWeave.Proofs.Correspondence.Select
import SqlWeave.Query.Call
import SqlWeave.Sql.Write

/-!
# Predicates are written as they are grouped

A list of predicates is written with a conjunction before each of them, after which the first
conjunction is dropped again; a group is written like any list, behind a keyword, and the keyword is
cut off.  Both go by the length and the look of what stands in front.  The text is nevertheless that
of the tree of predicates, whatever the predicates say themselves.

* `Text.chain`, `Style.predicateEntry`, `Style.predicateEntries` — **the specification**: the text
  of a tree of predicates, by recursion on the tree.
* `Style.predicateTexts_eq_entries` — nothing is cut off from a group and nothing is left over.
* `Style.assembleWith_eq_filterSql` — where the predicates stand in a select.
* `predicates_written_as_grouped` — the statement for every query.
-/

namespace SqlWeave

/-! ## The specification -/

namespace Text

/-- Entries behind another one, each after its own conjunction. -/
def chainTail : List (Conjunction × String) → String
  | [] => ""
  | p :: ps => " " ++ p.1.text ++ " " ++ p.2 ++ chainTail ps

/-- Entries with their conjunctions between them; that of the first is not written. -/
def chain : List (Conjunction × String) → String
  | [] => ""
  | p :: ps => p.2 ++ chainTail ps

end Text

namespace Style

mutual

/-- The text of a predicate, where a group is what it holds, in parentheses. -/
def predicateEntry (s : Style) : Predicate → Except QueryError String
  | .nested ⟨_, _, _, _, _, _, _, predicates, _, _, _, _, _, _, _, _, _, _, _, _, _, _, _⟩ _ =>
    (s.predicateEntries predicates).map fun entries => "(" ++ Text.chain entries ++ ")"
  | p => s.predicateText p

/-- The entries of a list of predicates. -/
def predicateEntries (s : Style) : List Predicate → Except QueryError (List (Conjunction × String))
  | [] => .ok []
  | p :: ps => do
    let text ← s.predicateEntry p
    let entries ← s.predicateEntries ps
    pure ((p.conjunction, text) :: entries)

end

/-- Predicates behind a keyword, if there are any. -/
def groupedPredicates (s : Style) (keyword : String) (ps : List Predicate) :
    Except QueryError String :=
  if ps = [] then .ok ""
  else (s.predicateEntries ps).map fun entries => keyword ++ " " ++ Text.chain entries

/-- Predicates on groups behind their keyword, if there are any. -/
def groupedHavings (s : Style) (hs : List Having) : String :=
  if hs = [] then "" else "having " ++ Text.chain (hs.map s.showHaving)

end Style

/-! ## Lists behind a keyword -/

namespace Text

/-- Entries joined by blanks are the chain, in which the first one stands without its word. -/
lemma intercalate_conjoined (ps : List (Conjunction × String)) :
    " ".intercalate (conjoined ps) = chain ps := by
  have tail : ∀ (first : String) (ps : List (Conjunction × String)),
      " ".intercalate (first :: ps.map fun p => p.1.text ++ " " ++ p.2)
        = first ++ chainTail ps := by
    intro first ps
    induction ps generalizing first with
    | nil => simp [chainTail]
    | cons p ps ih =>
        rw [List.map_cons, String.intercalate_cons_cons, ih, chainTail]
        simp only [String.append_assoc]
  cases ps with
  | nil => rfl
  | cons p ps => exact tail p.2 ps

/-- Behind the keyword stand the entries, whatever they begin with. -/
lemma predicateList_eq_chain (keyword : String) {ps : List (Conjunction × String)} (h : ps ≠ []) :
    predicateList keyword ps = keyword ++ " " ++ chain ps := by
  cases ps with
  | nil => exact absurd rfl h
  | cons p ps => rw [predicateList_cons, intercalate_conjoined]

end Text

/-! ## Groups -/

namespace Style

lemma groupSql_eq_chain (isJoin : Bool) (ps : List (Conjunction × String)) :
    groupSql isJoin ps = "(" ++ Text.chain ps ++ ")" := by
  rw [groupSql_eq, Text.intercalate_conjoined]

mutual

/-- A group is cut out whole, under either keyword and at any depth. -/
theorem predicateText_eq_entry (s : Style) : ∀ p : Predicate, s.predicateText p = s.predicateEntry p
  | .nested ⟨_, _, _, _, _, _, _, predicates, _, _, _, _, _, _, _, _, _, _, _, _, _, isJoin, _⟩
      _ => by
      rw [predicateText, ownPredicateTexts, predicateEntry, predicateTexts_eq_entries s predicates]
      congr 1
      funext entries
      exact groupSql_eq_chain isJoin entries
  | .compare .. | .raw .. | .isIn .. | .isInSub .. | .isNull .. | .between .. | .compareSub ..
  | .exists .. | .columns .. => by
      rw [predicateEntry]
      simp

theorem predicateTexts_eq_entries (s : Style) :
    ∀ ps : List Predicate, s.predicateTexts ps = s.predicateEntries ps
  | [] => by rw [predicateTexts, predicateEntries]
  | p :: ps => by
      rw [predicateTexts, predicateEntries, predicateText_eq_entry s p,
        predicateTexts_eq_entries s ps]

end

lemma entries_ne_nil {s : Style} {ps : List Predicate} {entries : List (Conjunction × String)}
    (h : s.predicateEntries ps = .ok entries) (hps : ps ≠ []) : entries ≠ [] := by
  cases ps with
  | nil => exact absurd rfl hps
  | cons p ps =>
      rw [predicateEntries] at h
      cases hp : s.predicateEntry p with
      | error e => rw [hp] at h; cases h
      | ok text =>
          cases hs : s.predicateEntries ps with
          | error e => rw [hp, hs] at h; cases h
          | ok rest =>
              rw [hp, hs] at h
              cases h
              exact List.cons_ne_nil _ _

/-- The keyword stands in front of what is not empty, in lists of predicates of any kind. -/
lemma predicateTexts_map_predicateSql (s : Style) (isJoin : Bool) (ps : List Predicate) :
    (s.predicateTexts ps).map (predicateSql isJoin)
      = s.groupedPredicates (predicateKeyword isJoin) ps := by
  rw [predicateTexts_eq_entries, groupedPredicates]
  split_ifs with hps
  · rw [hps, predicateEntries]
    rfl
  · cases hentries : s.predicateEntries ps with
    | error e => rfl
    | ok entries =>
        exact congrArg Except.ok (Text.predicateList_eq_chain _ (entries_ne_nil hentries hps))

/-- The predicates on groups have the same form behind their keyword. -/
lemma havingList_eq_chain (s : Style) (hs : List Having) :
    s.havingList hs = s.groupedHavings hs := by
  -- They hold no groups of their own, so there is no induction.
  rw [havingList, groupedHavings]
  split_ifs with hhs
  · rw [hhs]
    rfl
  · exact Text.predicateList_eq_chain "having" (by simpa using hhs)

/-! ## Where the predicates stand -/

/-- The predicates of a select are those of `filterSql`. -/
lemma assembleWith_eq_filterSql (s : Style) (q : Query) (t : Table) (a : Option Aggregate) :
    s.assembleWith q t a (s.selectParts q)
      = s.selectHead q (s.selectedTexts q.columns) a >>= fun head => s.joinsSql q >>= fun joins =>
        s.filterSql q >>= fun filter => s.columnTexts q.groups >>= fun groups =>
          let base := Text.phrase [head, s.fromSql t q.lock, joins, filter, groupList groups,
            s.havingList q.havings, s.ordering q.orders q.page, s.limitSql q.page,
            s.offsetSql q.page]
          (if q.arms.isEmpty then .ok base else (s.armTexts q.arms).map (s.unionSql q base)).map
            (s.withLock q.lock) := by
  rw [assembleWith_eq]
  simp only [selectParts, joinsSql, filterSql]
  cases s.selectHead q (s.selectedTexts q.columns) a with
  | error e => rfl
  | ok head =>
      cases s.joinTexts q.joins with
      | error e => rfl
      | ok joins =>
          cases s.predicateTexts q.predicates with
          | error e => rfl
          | ok predicates => rfl

/-- A join writes its predicates as a statement does, under its own keyword. -/
lemma joinText_eq_filterSql (s : Style) (j : Join) :
    s.joinText j = (s.filterSql j.query).map fun filter =>
      Text.phrase [j.kind.text ++ " join", s.tableSql j.table, filter] := by
  obtain ⟨kind, table, q⟩ := j
  rw [joinText, ownPredicateTexts_eq, filterSql, predicateTexts_eq]
  cases q.predicates.mapM s.writePredicate <;> rfl

end Style

/-! ## The statement -/

/-- **Predicates are written as they are grouped**, in every style and in every query: after their
keyword, which is that of a join in a join, and at any depth.  So are the predicates of each join,
and the predicates on groups. -/
theorem predicates_written_as_grouped (s : Style) (q : Query) :
    s.filterSql q = s.groupedPredicates (if q.isJoin then "on" else "where") q.predicates ∧
    (∀ j ∈ q.joins, s.joinText j
      = (s.groupedPredicates (if j.query.isJoin then "on" else "where") j.query.predicates).map
        fun filter => Text.phrase [j.kind.text ++ " join", s.tableSql j.table, filter]) ∧
    s.havingList q.havings = s.groupedHavings q.havings := by
  have filter : ∀ q : Query, s.filterSql q
      = s.groupedPredicates (Style.predicateKeyword q.isJoin) q.predicates :=
    fun q => s.predicateTexts_map_predicateSql q.isJoin q.predicates
  refine ⟨filter q, fun j _ => ?_, s.havingList_eq_chain q.havings⟩
  rw [s.joinText_eq_filterSql j, filter j.query, Style.predicateKeyword]

/-- Raw texts that begin with a conjunction keep it, also in a group in a group of a join. -/
example :
    let inner : List Call := [.whereRaw "Or a" [] .or, .whereRaw "and b" [] .and]
    let r : Recipe := ⟨.plain .ansi, [.onTable "t",
      .addJoin .inner "u" [.whereRaw "AND c" [], .group [.whereGroup inner .or]],
      .whereRaw "or d" [] .or]⟩
    r.build.toSql = .ok ("select * from \"t\" inner join \"u\" on AND c and ((Or a and and b)) "
      ++ "where or d") := by
  decide +kernel

end SqlWeave
