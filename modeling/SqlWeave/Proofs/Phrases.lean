import SqlWeave.Proofs.PredicateStructure
import SqlWeave.Proofs.UnionArms.Layout

/-!
# Phrases in phrases

A statement is a phrase, and so are some of its fragments: each join, the ordering and the page of a
union, the select that a lock is put behind.  A phrase in a phrase may be exchanged for its own
fragments, so every statement is one phrase of all its components, and what it lacks leaves no blank
behind at any depth.

Behind other text a phrase is nothing but its fragments one behind the other
(`Text.attachedAll`), so whether a blank is set never depends on how they are nested.

* `Text.phrase_eq_intercalate` — **the specification** of a phrase, without the order of its making.
* `Text.phrase_map_phrase` — **a phrase of phrases** is the phrase of all their fragments.
* `Style.flatSelect`, `Style.updateFragments`, `Style.deleteFragments` — the components of a
  statement in one list.
* `phrases_flatten` — the statement.
-/

namespace SqlWeave

namespace Text

/-! ## Phrases -/

/-- The fragments that are not blank, trimmed. -/
def kept (fs : List String) : List String :=
  (fs.map trim).filter (· ≠ "")

/-- Attaching several fragments puts a blank in front of each that is kept. -/
lemma append_attachedAll_eq (t : String) (fs : List String) :
    t ++ attachedAll fs = " ".intercalate (t :: kept fs) := by
  induction fs generalizing t with
  | nil => simp [attachedAll, kept]
  | cons f fs ih =>
      by_cases hf : trim f = ""
      · have hkept : kept (f :: fs) = kept fs := by simp [kept, hf]
        rw [attachedAll, attached, if_pos hf, String.empty_append, ih, hkept]
      · have hkept : kept (f :: fs) = trim f :: kept fs := by simp [kept, hf]
        rw [attachedAll, attached, if_neg hf, hkept, String.intercalate_cons_cons, ← ih]
        simp only [String.append_assoc]

/-- **A phrase** is made of the fragments that are not blank, trimmed, with a blank between each
two. -/
lemma phrase_eq_intercalate (fs : List String) : phrase fs = " ".intercalate (kept fs) := by
  induction fs with
  | nil => rfl
  | cons f fs ih =>
      rw [phrase_cons]
      split_ifs with hf
      · rw [ih, kept, kept, List.map_cons, List.filter_cons_of_neg (by simpa using hf)]
      · rw [append_attachedAll_eq, kept, kept, List.map_cons,
          List.filter_cons_of_pos (by simpa using hf)]

/-- A phrase is nothing at all, or it is tight. -/
lemma phrase_eq_empty_or_tight (fs : List String) : phrase fs = "" ∨ Tight (phrase fs) := by
  induction fs with
  | nil => exact .inl rfl
  | cons f fs ih =>
      rw [phrase_cons]
      split_ifs with hf
      · exact ih
      · exact .inr ((tight_trim hf).append_attachedAll fs)

/-- A phrase neither begins nor ends with a blank. -/
lemma not_blank_ends (fs : List String) :
    (∀ c ∈ (phrase fs).toList.head?, isBlank c = false) ∧
      ∀ c ∈ (phrase fs).toList.getLast?, isBlank c = false := by
  rcases phrase_eq_empty_or_tight fs with hempty | ⟨⟨c, hc, hblank⟩, d, hd, hblank'⟩
  · simp [hempty]
  · refine ⟨fun c' hc' => ?_, fun d' hd' => ?_⟩
    · rwa [← Option.mem_unique hc hc']
    · rwa [← Option.mem_unique hd hd']

/-- What is dropped from a phrase may be dropped before. -/
lemma kept_filter (fs : List String) : kept (fs.filter fun f => trim f ≠ "") = kept fs := by
  induction fs with
  | nil => rfl
  | cons f fs ih => by_cases hf : trim f = "" <;> simp_all [kept]

/-! ## Phrases as fragments -/

lemma trim_blank_append (t : String) : trim (" " ++ t) = trim t := by
  have hblank : isBlank ' ' = true := by decide
  rw [← String.toList_inj, toList_trim, toList_trim, String.toList_append]
  exact congrArg Chars.trimEnd (Chars.trimStart_of_blank hblank t.toList)

/-- A blank in front does not matter to what is attached, as it is trimmed. -/
lemma attached_blank_append (t : String) : attached (" " ++ t) = attached t := by
  rw [attached, attached, trim_blank_append]

lemma attachedAll_append (fs gs : List String) :
    attachedAll (fs ++ gs) = attachedAll fs ++ attachedAll gs := by
  induction fs with
  | nil => exact String.empty_append.symm
  | cons f fs ih => rw [List.cons_append, attachedAll, ih, attachedAll, String.append_assoc]

/-- A phrase is what its fragments are behind other text, without the blank in front. -/
lemma trim_attachedAll (fs : List String) : trim (attachedAll fs) = phrase fs := by
  rw [← attached_phrase]
  rcases phrase_eq_empty_or_tight fs with hempty | htight
  · rw [hempty, attached_empty]
    decide +kernel
  · rw [htight.attached_eq, trim_blank_append, htight.trim_eq]

/-- **Fragments that are alike behind other text** make the same phrase. -/
lemma phrase_congr {fs gs : List String} (h : attachedAll fs = attachedAll gs) :
    phrase fs = phrase gs := by
  rw [← trim_attachedAll, h, trim_attachedAll]

/-- **A phrase of phrases is the phrase of all fragments**, since each phrase is empty or tight. -/
lemma attachedAll_map_phrase (groups : List (List String)) :
    attachedAll (groups.map phrase) = attachedAll groups.flatten := by
  induction groups with
  | nil => rfl
  | cons g groups ih =>
      rw [List.map_cons, attachedAll, attached_phrase, ih, List.flatten_cons, attachedAll_append]

/-- A phrase of phrases is the phrase of all their fragments. -/
lemma phrase_map_phrase (groups : List (List String)) :
    phrase (groups.map phrase) = phrase groups.flatten :=
  phrase_congr (attachedAll_map_phrase groups)

/-- Of tight texts a phrase leaves everything as it is. -/
lemma phrase_of_tight {ts : List String} (h : ∀ t ∈ ts, Tight t) :
    phrase ts = " ".intercalate ts := by
  have htrim : ts.map trim = ts :=
    (List.map_congr_left fun t ht => (h t ht).trim_eq).trans (List.map_id ts)
  rw [phrase_eq_intercalate, kept, htrim,
    List.filter_eq_self.mpr fun t ht => decide_eq_true (h t ht).ne_empty]

end Text

namespace Style

/-! ## The components of a statement -/

/-- The keywords, the table and the predicates of a join. -/
def joinFragments (s : Style) (j : Join) : Except QueryError (List String) :=
  (s.filterSql j.query).map fun filter => [j.kind.text ++ " join", s.tableSql j.table, filter]

/-- The components of all joins. -/
def joinsFragments (s : Style) (q : Query) : Except QueryError (List String) :=
  (q.joins.mapM s.joinFragments).map List.flatten

/-- The ordering and the page of the combined result of a union. -/
def unionTailFragments (s : Style) (q : Query) : List String :=
  let p := q.unionPage
  if s.dialect = .sqlServer then
    if p.isAll then [s.orderList q.unionOrders]
    else [if q.unionOrders.isEmpty then anyOrder else s.orderList q.unionOrders,
      offsetFetch (p.offset.getD 0) p.limit]
  else [s.ordering q.unionOrders p, s.limitSql p, s.offsetSql p]

/-- The lock at the end of a select, if there is one. -/
def lockFragments (s : Style) (q : Query) : List String :=
  q.lock.toList.map s.lockSql

/-- The clauses of a select before its united statements. -/
def ownFragments (s : Style) (q : Query) (t : Table) (a : Option Aggregate) :
    Except QueryError (List String) := do
  let head ← s.selectHead q (s.selectedTexts q.columns) a
  let joins ← s.joinsFragments q
  let filter ← s.filterSql q
  let groups ← s.columnTexts q.groups
  pure ([head, s.fromSql t q.lock] ++ joins ++ [filter, groupList groups, s.havingList q.havings,
    s.ordering q.orders q.page, s.limitSql q.page, s.offsetSql q.page])

/-- The clauses of a select and its united statements, which are one component together: they are
joined to each other as they are. -/
def unitedFragments (s : Style) (own : List String) (arms : List (Bool × String)) : List String :=
  if s.wrapsArms then [arms.foldl s.addArmSql ("(" ++ Text.phrase own ++ ")")]
  else own ++ [arms.foldl s.addArmSql ""]

/-- The components of a select. -/
def selectFragments (s : Style) (q : Query) (t : Table) (a : Option Aggregate) :
    Except QueryError (List String) := do
  let own ← s.ownFragments q t a
  if q.arms.isEmpty then pure (own ++ s.lockFragments q)
  else
    let arms ← s.armTexts q.arms
    pure (s.unitedFragments own arms ++ s.unionTailFragments q ++ s.lockFragments q)

/-- A select from its components.  A function over the rows of a union is taken from the union as
a derived table. -/
def flatSelect (s : Style) (q : Query) : Except QueryError String := do
  let table ← q.requireTable
  match q.aggregate with
  | some a =>
    if q.hasUnion then
      (s.selectFragments q table none).map fun fs =>
        "select" ++ s.aggregateCall q.distinct a ++ " from (" ++ Text.phrase fs ++ ") as "
          ++ s.segment "temp_table"
    else (s.selectFragments q table (some a)).map Text.phrase
  | none => (s.selectFragments q table none).map Text.phrase

/-- The ordering and the limit of a change to one table. -/
def changeFragments (s : Style) (q : Query) : List String :=
  [s.ordering q.orders ⟨q.page.limit, none⟩, s.limitSql ⟨q.page.limit, none⟩]

/-- The components of an update. -/
def updateFragments (s : Style) (q : Query) : Except QueryError (List String) := do
  let table ← q.requireTable
  let (set, _) ← s.assignmentList q
  let joins ← s.joinsFragments q
  let filter ← s.filterSql q
  let name := s.tableSql table
  if s.dialect = .mysql then
    pure (["update " ++ name] ++ joins ++ ["set " ++ set, filter] ++ s.changeFragments q)
  else if s.dialect = .sqlServer ∧ ¬ q.joins.isEmpty then
    pure (["update " ++ s.tableAlias table ++ " set " ++ set, "from " ++ name] ++ joins
      ++ [filter])
  else pure (["update " ++ name ++ " set " ++ set] ++ joins ++ [filter])

/-- The components of a deletion. -/
def deleteFragments (s : Style) (q : Query) : Except QueryError (List String) := do
  let table ← q.requireTable
  if q.joins.isEmpty then
    let filter ← s.filterSql q
    let start := "delete from " ++ s.tableSql table
    if s.dialect = .mysql then pure ([start, filter] ++ s.changeFragments q)
    else pure [start, filter]
  else if s.dialect = .mysql ∨ s.dialect = .sqlServer then
    let joins ← s.joinsFragments q
    let filter ← s.filterSql q
    pure (["delete " ++ s.tableAlias table ++ " from " ++ s.tableSql table] ++ joins ++ [filter])
  else throw (.joinedDelete s.dialect)

/-! ## Joins -/

variable {s : Style} {q : Query}

/-- A join is the phrase of its fragments. -/
lemma joinText_eq_phrase (s : Style) (j : Join) :
    s.joinText j = (s.joinFragments j).map Text.phrase := by
  rw [joinText_eq_filterSql, joinFragments]
  cases s.filterSql j.query <;> rfl

lemma joinTexts_eq_phrases (s : Style) (js : List Join) :
    s.joinTexts js = (js.mapM s.joinFragments).map (List.map Text.phrase) := by
  induction js with
  | nil => rw [joinTexts, List.mapM_nil]; rfl
  | cons j js ih =>
      rw [joinTexts, List.mapM_cons, ih, joinText_eq_phrase]
      cases s.joinFragments j with
      | error e => rfl
      | ok fs => cases js.mapM s.joinFragments <;> rfl

/-- A kind of join is a word. -/
lemma opens_joinKind (kind : JoinKind) : Chars.Opens kind.text.toList := by
  cases kind <;> exact ⟨_, rfl, rfl⟩

/-- A join begins with that word, so it is tight. -/
lemma tight_joinFragments {j : Join} {fs : List String} (h : s.joinFragments j = .ok fs) :
    Text.Tight (Text.phrase fs) := by
  rw [joinFragments] at h
  cases hfilter : s.filterSql j.query with
  | error e => rw [hfilter] at h; cases h
  | ok filter =>
      rw [hfilter] at h
      cases h
      refine Text.tight_phrase_cons ?_ _
      rw [String.toList_append]
      exact (opens_joinKind j.kind).append _

lemma tight_joinsFragments {js : List Join} {groups : List (List String)}
    (h : js.mapM s.joinFragments = .ok groups) : ∀ t ∈ groups.map Text.phrase, Text.Tight t := by
  induction js generalizing groups with
  | nil =>
      rw [List.mapM_nil] at h
      cases h
      simp
  | cons j js ih =>
      rw [List.mapM_cons] at h
      obtain ⟨fs, hfs, h⟩ := ok_of_bind_ok h
      obtain ⟨rest, hrest, h⟩ := ok_of_bind_ok h
      cases h
      exact List.forall_mem_cons.mpr ⟨tight_joinFragments hfs, ih hrest⟩

/-- The joins are put together with blanks of their own, and none of them is blank. -/
lemma joinsSql_eq_phrase (s : Style) (q : Query) :
    s.joinsSql q = (s.joinsFragments q).map Text.phrase := by
  rw [joinsSql, joinTexts_eq_phrases, joinsFragments]
  cases hgroups : q.joins.mapM s.joinFragments with
  | error e => rfl
  | ok groups =>
      refine congrArg Except.ok ?_
      rw [← Text.phrase_of_tight (tight_joinsFragments hgroups), Text.phrase_map_phrase]

/-! ## The ordering and the page of a union -/

/-- The ordering and the page of a union are attached fragment by fragment. -/
lemma attached_unionTail_fragments (s : Style) (q : Query) :
    Text.attached (s.unionTail q) = Text.attachedAll (s.unionTailFragments q) := by
  rw [unionTail, unionTailFragments]
  split_ifs
  · rw [Text.attachedAll, Text.attachedAll, String.append_empty]
  all_goals exact Text.attached_phrase _

/-! ## Selects -/

/-- A select begins with its keyword, so what is its own is tight. -/
lemma tight_ownFragments {t : Table} {a : Option Aggregate} {own : List String}
    (h : s.ownFragments q t a = .ok own) : Text.Tight (Text.phrase own) := by
  obtain ⟨head, hhead, h⟩ := ok_of_bind_ok h
  obtain ⟨joins, -, h⟩ := ok_of_bind_ok h
  obtain ⟨filter, -, h⟩ := ok_of_bind_ok h
  obtain ⟨groups, -, h⟩ := ok_of_bind_ok h
  cases h
  exact Text.tight_phrase_cons (opens_selectHead hhead) _

lemma withLock_phrase (s : Style) (q : Query) (fs : List String) :
    s.withLock q.lock (Text.phrase fs) = Text.phrase (fs ++ s.lockFragments q) := by
  unfold withLock lockFragments
  cases q.lock with
  | none => simp
  | some l =>
      refine Text.phrase_congr ?_
      simp [Text.attachedAll, Text.attachedAll_append, Text.attached_phrase]

/-- Behind the blank that is set before them, united statements begin with their keyword. -/
lemma exists_united (s : Style) {arms : List (Bool × String)} (harms : arms ≠ []) :
    ∃ t, arms.foldl s.addArmSql "" = " " ++ t ∧ Chars.Opens t.toList := by
  obtain ⟨arm, arms, rfl⟩ := List.exists_cons_of_ne_nil harms
  have hkeyword : Chars.Opens (if arm.1 then "union all" else "union").toList := by
    cases arm.1 <;> exact ⟨'u', rfl, rfl⟩
  obtain ⟨rest, hrest⟩ : ∃ rest, s.addArmSql "" arm
      = " " ++ ((if arm.1 then "union all" else "union") ++ rest) := by
    rw [addArmSql]
    by_cases hwraps : s.wrapsArms = true
    · refine ⟨" (" ++ arm.2 ++ ")", ?_⟩
      rw [if_pos hwraps]
      simp only [String.append_assoc, String.empty_append]
    · refine ⟨" " ++ arm.2, ?_⟩
      rw [if_neg hwraps]
      simp only [String.append_assoc, String.empty_append]
  rw [List.foldl_cons, foldl_addArmSql, hrest]
  refine ⟨_, String.append_assoc, ?_⟩
  rw [String.append_assoc, String.toList_append]
  exact hkeyword.append _

/-- **A union** is the phrase of its members and of what stands behind them. -/
lemma unionSql_eq_phrase (q : Query) {own : List String} (htight : Text.Tight (Text.phrase own))
    {arms : List (Bool × String)} (harms : arms ≠ []) :
    s.unionSql q (Text.phrase own) arms
      = Text.phrase (s.unitedFragments own arms ++ s.unionTailFragments q) := by
  rw [unionSql, unitedFragments]
  split_ifs with hwraps
  · refine Text.phrase_congr ?_
    simp only [Text.attachedAll, Text.attachedAll_append, attached_unionTail_fragments,
      String.append_empty]
  · -- Clauses and united statements are one fragment, which is cut before the first keyword.
    obtain ⟨t, ht, hopens⟩ := s.exists_united harms
    rw [foldl_addArmSql, ht, ← String.append_assoc, Text.phrase_cut htight hopens]
    refine Text.phrase_congr ?_
    simp only [Text.attachedAll, Text.attachedAll_append, attached_unionTail_fragments,
      Text.attached_phrase, Text.attached_blank_append, String.append_empty, String.append_assoc]

/-- The clauses of a select are in one phrase, in which the joins are a phrase themselves. -/
lemma assembleWith_eq_own (s : Style) (q : Query) (t : Table) (a : Option Aggregate) :
    s.assembleWith q t a (s.selectParts q) = s.ownFragments q t a >>= fun own =>
      (if q.arms.isEmpty then .ok (Text.phrase own)
        else (s.armTexts q.arms).map (s.unionSql q (Text.phrase own))).map
          (s.withLock q.lock) := by
  have hbase : ∀ head filter : String, ∀ joins groups : List String,
      Text.phrase [head, s.fromSql t q.lock, Text.phrase joins, filter, groupList groups,
        s.havingList q.havings, s.ordering q.orders q.page, s.limitSql q.page, s.offsetSql q.page]
      = Text.phrase ([head, s.fromSql t q.lock] ++ joins ++ [filter, groupList groups,
        s.havingList q.havings, s.ordering q.orders q.page, s.limitSql q.page,
        s.offsetSql q.page]) := by
    intro head filter joins groups
    refine Text.phrase_congr ?_
    simp only [Text.attachedAll, Text.attachedAll_append, Text.attached_phrase, String.append_assoc,
      String.empty_append]
  rw [assembleWith_eq_filterSql, joinsSql_eq_phrase, ownFragments]
  simp only [bind_assoc]
  refine bind_congr fun head => ?_
  cases s.joinsFragments q with
  | error e => rfl
  | ok joins =>
      show s.filterSql q >>= _ = s.filterSql q >>= _
      refine bind_congr fun filter => bind_congr fun groups => ?_
      exact congrArg (fun base => (if q.arms.isEmpty then .ok base
        else (s.armTexts q.arms).map (s.unionSql q base)).map (s.withLock q.lock))
        (hbase head filter joins groups)

/-- United statements that are there are written. -/
lemma armTexts_ne_nil {arms : List Arm} {texts : List (Bool × String)}
    (h : s.armTexts arms = .ok texts) (harms : arms ≠ []) : texts ≠ [] := by
  obtain ⟨arm, arms, rfl⟩ := List.exists_cons_of_ne_nil harms
  rw [armTexts] at h
  obtain ⟨text, -, h⟩ := ok_of_bind_ok h
  obtain ⟨rest, -, h⟩ := ok_of_bind_ok h
  cases h
  exact List.cons_ne_nil _ _

/-- A select is the phrase of its fragments, with or without united statements. -/
lemma assembleWith_eq_phrase (s : Style) (q : Query) (t : Table) (a : Option Aggregate) :
    s.assembleWith q t a (s.selectParts q) = (s.selectFragments q t a).map Text.phrase := by
  rw [assembleWith_eq_own, selectFragments]
  cases hown : s.ownFragments q t a with
  | error e => rfl
  | ok own =>
  have htight := tight_ownFragments hown
  by_cases harms : q.arms = []
  · simp only [harms, List.isEmpty_nil, if_true]
    exact congrArg Except.ok (s.withLock_phrase q own)
  cases htexts : s.armTexts q.arms with
  | error e =>
      simp only [List.isEmpty_iff, harms, if_false]
      rfl
  | ok arms =>
  have hunion := unionSql_eq_phrase (s := s) q htight (armTexts_ne_nil htexts harms)
  simp only [List.isEmpty_iff, harms, if_false]
  show Except.ok (s.withLock q.lock (s.unionSql q (Text.phrase own) arms)) = _
  rw [hunion, withLock_phrase]
  rfl

/-- So is the text of a query, in a derived table too. -/
lemma selectText_eq_flatSelect (s : Style) (q : Query) : s.selectText q = s.flatSelect q := by
  rw [selectText_eq, assemble, flatSelect]
  refine bind_congr fun t => ?_
  cases q.aggregate with
  | none => exact s.assembleWith_eq_phrase q t none
  | some a =>
      have hmap : ∀ (x : Except QueryError (List String)) (f : String → String),
          (x.map Text.phrase).map f = x.map fun fs => f (Text.phrase fs) := by
        intro x f
        cases x <;> rfl
      simp only [assembleWith_eq_phrase, hmap]
      rfl

/-! ## Changes -/

/-- What stands behind a change is attached fragment by fragment. -/
lemma attached_changeTail (s : Style) (q : Query) :
    Text.attached (s.changeTail q) = Text.attachedAll (s.changeFragments q) :=
  Text.attached_phrase _

/-- **An update** is the phrase of its fragments, in each of the places that a dialect has for its
joins. -/
lemma update_eq_phrase (s : Style) (q : Query) :
    (s.update q).map (·.sql) = (s.updateFragments q).map Text.phrase := by
  rw [update, updateFragments, joinsSql_eq_phrase]
  cases q.requireTable with
  | error e => rfl
  | ok table =>
  cases s.assignmentList q with
  | error e => rfl
  | ok assignments =>
  cases s.joinsFragments q with
  | error e => rfl
  | ok joins =>
  cases s.filterSql q with
  | error e => rfl
  | ok filter =>
  simp only [bind, Except.bind, Except.map, pure, Except.pure]
  split_ifs
  all_goals
    simp only [Except.ok.injEq]
    refine Text.phrase_congr ?_
    simp only [Text.attachedAll, Text.attachedAll_append, Text.attached_phrase, attached_changeTail,
      String.append_assoc, String.append_empty]

/-- **A deletion** is the phrase of its fragments. -/
lemma delete_eq_phrase (s : Style) (q : Query) :
    (s.delete q).map (·.sql) = (s.deleteFragments q).map Text.phrase := by
  rw [delete, deleteFragments]
  cases q.requireTable with
  | error e => rfl
  | ok table =>
  simp only [deletePlain, deleteJoined, joinsSql_eq_phrase, bind, Except.bind, pure, Except.pure]
  split_ifs with hjoins hmysql hjoined
  · cases s.filterSql q with
    | error e => rfl
    | ok filter =>
        simp only [Except.map, Except.ok.injEq]
        refine Text.phrase_congr ?_
        simp only [Text.attachedAll, Text.attachedAll_append, attached_changeTail,
          String.append_assoc, String.append_empty]
  · cases s.filterSql q <;> rfl
  · cases s.joinsFragments q with
    | error e => rfl
    | ok joins =>
        cases s.filterSql q with
        | error e => rfl
        | ok filter =>
            simp only [Except.map, Except.ok.injEq]
            refine Text.phrase_congr ?_
            simp only [Text.attachedAll, Text.attachedAll_append, Text.attached_phrase,
              String.append_assoc, String.append_empty]
  · rfl

end Style

/-! ## The statement -/

/-- **Phrases may be nested**, and nothing is left of what is blank.  A phrase is its fragments that
are not blank, trimmed, with one blank between each two, and has no blank at its ends; two phrases
are put together as their fragments are.  So joins, the page of a union, selects, updates and
deletions are one phrase of all their components, in every style. -/
theorem phrases_flatten :
    (∀ fs gs, Text.phrase (fs ++ gs) = Text.phrase [Text.phrase fs, Text.phrase gs]) ∧
    (∀ fs, (∀ c ∈ (Text.phrase fs).toList.head?, isBlank c = false) ∧
      (∀ c ∈ (Text.phrase fs).toList.getLast?, isBlank c = false) ∧
      Text.phrase fs = Text.phrase (fs.filter fun f => Text.trim f ≠ "") ∧
      Text.phrase fs = " ".intercalate ((fs.map Text.trim).filter (· ≠ ""))) ∧
    ∀ (s : Style) (q : Query), s.joinsSql q = (s.joinsFragments q).map Text.phrase ∧
      (∀ fs, Text.phrase (fs ++ [s.unionTail q]) = Text.phrase (fs ++ s.unionTailFragments q)) ∧
      s.selectText q = s.flatSelect q ∧
      (s.update q).map (·.sql) = (s.updateFragments q).map Text.phrase ∧
      (s.delete q).map (·.sql) = (s.deleteFragments q).map Text.phrase := by
  refine ⟨fun fs gs => ?_, fun fs => ⟨(Text.not_blank_ends fs).1, (Text.not_blank_ends fs).2, ?_,
    Text.phrase_eq_intercalate fs⟩, fun s q => ⟨s.joinsSql_eq_phrase q, fun fs => ?_,
      s.selectText_eq_flatSelect q, s.update_eq_phrase q, s.delete_eq_phrase q⟩⟩
  · simpa using (Text.phrase_map_phrase [fs, gs]).symm
  · rw [Text.phrase_eq_intercalate, Text.phrase_eq_intercalate, Text.kept_filter]
  · refine Text.phrase_congr ?_
    simp only [Text.attachedAll_append, Text.attachedAll, Style.attached_unionTail_fragments,
      String.append_empty]

/-- Blanks of any kind are left out, at any depth. -/
example : Text.phrase ["a\u00a0", " \t", Text.phrase ["", "\u2003b ", Text.phrase []], "c"]
    = "a b c" := by
  decide +kernel

end SqlWeave
