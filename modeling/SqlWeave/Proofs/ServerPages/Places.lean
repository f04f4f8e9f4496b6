import SqlWeave.Proofs.PredicateStructure
import SqlWeave.Proofs.ServerPages.Texts
import SqlWeave.Proofs.WellFormed

/-!
# Places of selects in a select

A select that is written inside of another one stands in a column, a group, a united statement or,
through groups and joins at any depth, in a predicate.  What is written around it is the same for
every select that is put there, although fragments are trimmed and texts are cut on the way.

* `Query.Place` — a query with a place for a select that is written with it.
* `Text.Around` — a text around another one.
* `Query.Place.lifts` — **what is written around a place** does not depend on what stands there.
* `Query.renders_iff_place` — every select that is written stands at a place.
-/

namespace SqlWeave

/-! ## Texts around texts -/

namespace Chars

/-- Blanks are trimmed from the front of what stands before a text that begins with none. -/
lemma trimStart_append_of_opens {t : List Char} (h : Opens t) (s : List Char) :
    trimStart (s ++ t) = trimStart s ++ t := by
  rw [trimStart, List.dropWhile_append]
  split_ifs with hnil
  · rw [trimStart, List.isEmpty_iff.mp hnil, List.nil_append]
    exact trimStart_of_opens h
  · rfl

end Chars

namespace Text

/-- **A text around another one**: what stands on either side of a tight text is the same for all
of them. -/
def Around (C : String → String) : Prop :=
  ∃ a b, ∀ t, Tight t → C t = a ++ t ++ b

variable {C : String → String}

lemma around_id : Around fun t => t :=
  ⟨"", "", fun t _ => by simp⟩

namespace Around

lemma append_left (h : Around C) (x : String) : Around fun t => x ++ C t := by
  obtain ⟨a, b, h⟩ := h
  exact ⟨x ++ a, b, fun t ht => by simp only [h t ht, String.append_assoc]⟩

lemma append_right (h : Around C) (y : String) : Around fun t => C t ++ y := by
  obtain ⟨a, b, h⟩ := h
  exact ⟨a, b ++ y, fun t ht => by simp only [h t ht, String.append_assoc]⟩

/-- Blanks are trimmed up to the text and no further. -/
lemma trimEnd (h : Around C) : Around fun t => Text.trimEnd (C t) := by
  obtain ⟨a, b, h⟩ := h
  refine ⟨a, Text.trimEnd b, fun t ht => ?_⟩
  simp only [h t ht, ← String.toList_inj, Text.trimEnd, String.toList_ofList, String.toList_append]
  exact Chars.trimEnd_append_of_closes (ht.2.append _) _

/-- Attaching trims both sides, up to the text and no further. -/
lemma attached (h : Around C) : Around fun t => Text.attached (C t) := by
  obtain ⟨a, b, h⟩ := h
  refine ⟨" " ++ String.ofList (Chars.trimStart a.toList), Text.trimEnd b, fun t ht => ?_⟩
  have htrim : trim (a ++ t ++ b)
      = String.ofList (Chars.trimStart a.toList) ++ t ++ Text.trimEnd b := by
    simp only [← String.toList_inj, toList_trim, Chars.trim, String.toList_append,
      String.toList_ofList, Text.trimEnd]
    rw [List.append_assoc, Chars.trimStart_append_of_opens (ht.1.append _), ← List.append_assoc,
      Chars.trimEnd_append_of_closes (ht.2.append _)]
  have hne : trim (a ++ t ++ b) ≠ "" := by
    rw [htrim]
    intro hempty
    simp only [String.append_eq_empty_iff] at hempty
    exact ht.ne_empty hempty.1.2
  simp only [h t ht]
  rw [Text.attached, if_neg hne, htrim]
  simp only [String.append_assoc]

/-- One of several texts with a separator between them. -/
lemma intercalate (h : Around C) (sep : String) (front back : List String) :
    Around fun t => sep.intercalate (front ++ C t :: back) := by
  induction front with
  | nil =>
      cases back with
      | nil => simpa using h
      | cons next back =>
          simp only [List.nil_append, String.intercalate_cons_cons]
          exact (h.append_right _).append_right _
  | cons first front ih =>
      have hne : ∀ t, front ++ C t :: back ≠ [] := by simp
      simp only [List.cons_append, String.intercalate_cons_of_ne_nil (hne _)]
      exact ih.append_left _

/-- One of several predicates with their conjunctions between them. -/
lemma chain (h : Around C) (c : Conjunction) (front back : List (Conjunction × String)) :
    Around fun t => Text.chain (front ++ (c, C t) :: back) := by
  have htail : ∀ front : List (Conjunction × String),
      Around fun t => Text.chainTail (front ++ (c, C t) :: back) := by
    intro front
    induction front with
    | nil =>
        simp only [List.nil_append, Text.chainTail]
        exact (h.append_left _).append_right _
    | cons first front ih =>
        simp only [List.cons_append, Text.chainTail]
        exact ih.append_left _
  cases front with
  | nil =>
      simp only [List.nil_append, Text.chain]
      exact h.append_right _
  | cons first front =>
      simp only [List.cons_append, Text.chain]
      exact (htail front).append_left _

end Around

end Text

/-! ## One of several parts -/

section

variable {ε α β : Type} {f : α → Except ε β} {front back : List α} {x : α}

/-- Where several parts can be written, each of them can be replaced. -/
lemma mapM_around {texts : List β} (h : (front ++ x :: back).mapM f = .ok texts) :
    (∃ text, f x = .ok text) ∧ ∃ before after, ∀ y text, f y = .ok text →
      (front ++ y :: back).mapM f = .ok (before ++ text :: after) := by
  rw [List.mapM_append] at h
  obtain ⟨before, hbefore, h⟩ := ok_of_bind_ok h
  obtain ⟨rest, hrest, h⟩ := ok_of_bind_ok h
  rw [List.mapM_cons] at hrest
  obtain ⟨text, htext, hrest⟩ := ok_of_bind_ok hrest
  obtain ⟨after, hafter, hrest⟩ := ok_of_bind_ok hrest
  refine ⟨⟨text, htext⟩, before, after, fun y text hy => ?_⟩
  rw [List.mapM_append, List.mapM_cons, hbefore, hy, hafter]
  rfl

end

/-! ## Places -/

/-- What of a query is written: all of it, or its predicates alone, as of a group or a join. -/
inductive Extent where
  | select
  | predicates

/-- A predicate with a place for a select that is its operand. -/
inductive Predicate.Operand : (Query → Predicate) → Prop
  | isIn (column : String) (negated : Bool) (c : Conjunction) :
    Operand fun r => .isInSub column r negated c
  | compare (column operator : String) (c : Conjunction) :
    Operand fun r => .compareSub column operator r c
  | exists (negated : Bool) (c : Conjunction) : Operand fun r => .exists r negated c

/-- **A query with a place** for a select that is written where the query is.  Columns are not
written where a function over the rows takes their place. -/
inductive Query.Place : Extent → (Query → Query) → Prop
  | whole : Place .select fun r => r
  | column {f : Query → Query} (hf : Place .select f) (q : Query) (front back : List Column)
      (label : String) (hshown : q.aggregate = none ∨ q.arms ≠ []) :
    Place .select fun r => { q with columns := some (front ++ .sub (f r) label :: back) }
  | group {f : Query → Query} (hf : Place .select f) (q : Query) (front back : List Column)
      (label : String) :
    Place .select fun r => { q with groups := front ++ .sub (f r) label :: back }
  | arm {f : Query → Query} (hf : Place .select f) (q : Query) (front back : List Arm)
      (all : Bool) :
    Place .select fun r => { q with arms := front ++ ⟨f r, all⟩ :: back }
  | join {f : Query → Query} (hf : Place .predicates f) (q : Query) (front back : List Join)
      (kind : JoinKind) (table : Table) :
    Place .select fun r => { q with joins := front ++ ⟨kind, table, f r⟩ :: back }
  | filter {f : Query → Query} (hf : Place .predicates f) : Place .select f
  | operand {f : Query → Query} (hf : Place .select f) (q : Query) (front back : List Predicate)
      {P : Query → Predicate} (hP : Predicate.Operand P) :
    Place .predicates fun r => { q with predicates := front ++ P (f r) :: back }
  | nested {f : Query → Query} (hf : Place .predicates f) (q : Query)
      (front back : List Predicate) (c : Conjunction) :
    Place .predicates fun r => { q with predicates := front ++ .nested (f r) c :: back }

/-- Beside its predicates a group or a join is the same whatever stands in it. -/
lemma Query.Place.exists_frame {f : Query → Query} (hf : Query.Place .predicates f) :
    ∃ q : Query, ∀ r, f r = { q with predicates := (f r).predicates } := by
  cases hf with
  | operand _ q | nested _ q => exact ⟨q, fun _ => rfl⟩

namespace Style

variable {s : Style} {q : Query} {table : Table} {page unionPage : Page} {C : String → String}

/-! ## What is written around a part -/

lemma around_predicateSql (hC : Text.Around C) (isJoin : Bool) (c : Conjunction)
    (front back : List (Conjunction × String)) :
    Text.Around fun t => predicateSql isJoin (front ++ (c, C t) :: back) := by
  have hne : ∀ t, front ++ (c, C t) :: back ≠ [] := by simp
  simp only [predicateSql, Text.predicateList_eq_chain _ (hne _)]
  exact (hC.chain c front back).append_left _

/-- The table that a union is wrapped in. -/
lemma around_derived (hC : Text.Around C) (q : Query) :
    Text.Around fun t => s.derived q (C t) := by
  cases haggregate : q.aggregate with
  | none => simpa only [derived, haggregate] using hC
  | some a =>
      cases harms : q.arms.isEmpty with
      | true => simpa only [derived, haggregate, harms, if_true] using hC
      | false =>
          simp only [derived, haggregate, harms, Bool.false_eq_true, if_false]
          exact ((hC.append_left _).append_right _).append_right _

section

variable {w : Texts}

/-- One of the columns, if there is no function over the rows in their place. -/
lemma around_columns (hown : ownAggregate q = none) (hC : Text.Around C)
    (front back : List String) : Text.Around fun t =>
      s.serverSelect q table { w with columns := front ++ C t :: back } page unionPage := by
  simp only [serverSelect, serverClauses, selection, hown]
  have hlist := hC.intercalate ", " front back
  exact (((((hlist.append_left _).trimEnd.append_right _).append_left _).append_right
    _)).append_right _

lemma around_joins (hC : Text.Around C) (front back : List String) : Text.Around fun t =>
    s.serverSelect q table { w with joins := front ++ C t :: back } page unionPage := by
  simp only [serverSelect, serverClauses, Text.attachedAll]
  have hlist := (hC.intercalate " " front back).attached
  exact (((((hlist.append_right _).append_left _).append_left _).append_left _).append_right
    _).append_right _

lemma around_predicates (hC : Text.Around C) (c : Conjunction)
    (front back : List (Conjunction × String)) : Text.Around fun t =>
      s.serverSelect q table { w with predicates := front ++ (c, C t) :: back } page unionPage := by
  simp only [serverSelect, serverClauses, Text.attachedAll]
  have hlist := (around_predicateSql hC q.isJoin c front back).attached
  exact ((((((hlist.append_right _).append_left _).append_left _).append_left _).append_left
    _).append_right _).append_right _

lemma around_groups (hC : Text.Around C) (front back : List String) : Text.Around fun t =>
    s.serverSelect q table { w with groups := front ++ C t :: back } page unionPage := by
  have hne : ∀ t, (front ++ C t :: back).isEmpty = false := by simp
  simp only [serverSelect, serverClauses, Text.attachedAll, groupList, hne,
    Bool.false_eq_true, if_false]
  have hlist := ((hC.intercalate ", " front back).append_left "group by ").attached
  exact (((((((hlist.append_right _).append_left _).append_left _).append_left _).append_left
    _).append_left _).append_right _).append_right _

/-- One of the united statements, if there are any in the text. -/
lemma around_arms (hs : s.dialect = .sqlServer) (harms : q.arms ≠ []) (hC : Text.Around C)
    (all : Bool) (front back : List (Bool × String)) : Text.Around fun t =>
      s.serverSelect q table { w with arms := front ++ (all, C t) :: back } page unionPage := by
  have hunion : q.arms.isEmpty = false := by simpa using harms
  have hwraps : s.wrapsArms = false := by simp [wrapsArms, hs]
  have hlist : Text.Around fun t => (front ++ (all, C t) :: back).foldl s.addArmSql "" := by
    have hfold : ∀ t, (front ++ (all, C t) :: back).foldl s.addArmSql ""
        = front.foldl s.addArmSql "" ++ " " ++ (if all then "union all" else "union") ++ " " ++ C t
          ++ back.foldl s.addArmSql "" := by
      intro t
      rw [List.foldl_append, List.foldl_cons, s.foldl_addArmSql back (s.addArmSql _ _)]
      simp only [addArmSql, hwraps, Bool.false_eq_true, if_false]
    simp only [hfold]
    exact (hC.append_left _).append_right _
  simp only [serverSelect, serverClauses, serverArms, hunion, Bool.false_eq_true, if_false]
  exact (hlist.trimEnd.append_right _).append_left _

end

/-- An operand stands in parentheses. -/
lemma exists_writePredicate (s : Style) {P : Query → Predicate} (hP : Predicate.Operand P) :
    ∃ c a b, ∀ r, s.writePredicate (P r)
      = (s.selectText r).map fun sql => (c, a ++ sql ++ b) := by
  cases hP with
  | isIn column negated c =>
      refine ⟨c, s.column column ++ (if negated then " not in " else " in ") ++ "(", ")",
        fun r => ?_⟩
      rw [writePredicate, predicateText]
      cases s.selectText r <;> rfl
  | compare column operator c =>
      refine ⟨c, s.column column ++ " " ++ operator ++ " (", ")", fun r => ?_⟩
      rw [writePredicate, predicateText]
      cases s.selectText r <;> rfl
  | «exists» negated c =>
      refine ⟨c, if negated then "not exists (" else "exists (", ")", fun r => ?_⟩
      rw [writePredicate, predicateText]
      cases s.selectText r <;> rfl

/-- A group is a chain of predicates in parentheses. -/
lemma writePredicate_nested (s : Style) (q : Query) (c : Conjunction) :
    s.writePredicate (.nested q c)
      = (s.predicateTexts q.predicates).map fun ps => (c, "(" ++ Text.chain ps ++ ")") := by
  rw [writePredicate, predicateText, ownPredicateTexts_eq, ← predicateTexts_eq]
  cases s.predicateTexts q.predicates with
  | error e => rfl
  | ok ps => exact congrArg (fun text => Except.ok (c, text)) (groupSql_eq_chain q.isJoin ps)

lemma joinText_eq_fragments (s : Style) (kind : JoinKind) (table : Table) (q : Query) :
    s.joinText ⟨kind, table, q⟩ = (s.predicateTexts q.predicates).map fun ps =>
      kind.text ++ " join" ++ (Text.attached (s.tableSql table)
        ++ Text.attached (predicateSql q.isJoin ps)) := by
  have hkind : Text.Tight (kind.text ++ " join") := by
    cases kind <;> exact ⟨⟨_, rfl, rfl⟩, ⟨_, rfl, rfl⟩⟩
  rw [joinText, ownPredicateTexts_eq, ← predicateTexts_eq]
  simp only [Text.phrase_cons_of_tight hkind, Text.attachedAll, String.append_empty]

/-- What is written of a query around a select, if a first one can be written there. -/
def Lifts (s : Style) (C₀ : String → String) (r₀ : Query) (f : Query → Query) : Extent → Prop
  | .select => (f r₀).Selectable → ∃ C, Text.Around C ∧
      ∀ r t, s.selectText r = .ok (C₀ t) → s.selectText (f r) = .ok (C t)
  | .predicates => (∃ texts, s.predicateTexts (f r₀).predicates = .ok texts) →
      ∃ C front back c, Text.Around C ∧ ∀ r t, s.selectText r = .ok (C₀ t) →
        s.predicateTexts (f r).predicates = .ok (front ++ (c, C t) :: back)

end Style

/-! ## What is written around a place -/

/-- A select that has a text can be written. -/
lemma Query.selectable_of_text {s : Style} {q : Query} {sql : String}
    (h : s.selectText q = .ok sql) : q.Selectable :=
  (Style.selectText_succeeds_iff s q).mp ⟨sql, h⟩

namespace Style.Lifts

variable {s : Style} {f : Query → Query} {C₀ : String → String} {r₀ : Query}

/-- One of several columns. -/
lemma columns (h : s.Lifts C₀ r₀ f .select) {front back : List Column} {label : String}
    {texts : List String}
    (htexts : s.columnTexts (front ++ .sub (f r₀) label :: back) = .ok texts) :
    ∃ C before after, Text.Around C ∧ ∀ r t, s.selectText r = .ok (C₀ t) →
      s.columnTexts (front ++ .sub (f r) label :: back) = .ok (before ++ C t :: after) := by
  rw [columnTexts_eq] at htexts
  obtain ⟨⟨text, htext⟩, before, after, hput⟩ := mapM_around htexts
  obtain ⟨sql, hsql⟩ := map_succeeds_iff.mp ⟨text, htext⟩
  obtain ⟨C, hC, hwritten⟩ := h (Query.selectable_of_text hsql)
  refine ⟨fun t => "(" ++ C t ++ ") as " ++ s.segment label, before, after,
    ((hC.append_left _).append_right _).append_right _, fun r t hr => ?_⟩
  rw [columnTexts_eq]
  refine hput _ _ ?_
  rw [columnText, hwritten r t hr]
  rfl

/-- One of several united statements. -/
lemma arms (h : s.Lifts C₀ r₀ f .select) {front back : List Arm} {all : Bool}
    {texts : List (Bool × String)}
    (htexts : s.armTexts (front ++ ⟨f r₀, all⟩ :: back) = .ok texts) :
    ∃ C before after, Text.Around C ∧ ∀ r t, s.selectText r = .ok (C₀ t) →
      s.armTexts (front ++ ⟨f r, all⟩ :: back) = .ok (before ++ (all, C t) :: after) := by
  rw [armTexts_eq] at htexts
  obtain ⟨⟨text, htext⟩, before, after, hput⟩ := mapM_around htexts
  obtain ⟨sql, hsql⟩ := map_succeeds_iff.mp ⟨text, htext⟩
  obtain ⟨C, hC, hwritten⟩ := h (Query.selectable_of_text hsql)
  refine ⟨C, before, after, hC, fun r t hr => ?_⟩
  rw [armTexts_eq]
  refine hput _ _ ?_
  rw [armText, hwritten r t hr]
  rfl

/-- One of several joins. -/
lemma joins (h : s.Lifts C₀ r₀ f .predicates) (hf : Query.Place .predicates f)
    {front back : List Join} {kind : JoinKind} {table : Table} {texts : List String}
    (htexts : s.joinTexts (front ++ ⟨kind, table, f r₀⟩ :: back) = .ok texts) :
    ∃ C before after, Text.Around C ∧ ∀ r t, s.selectText r = .ok (C₀ t) →
      s.joinTexts (front ++ ⟨kind, table, f r⟩ :: back) = .ok (before ++ C t :: after) := by
  rw [joinTexts_eq] at htexts
  obtain ⟨⟨text, htext⟩, before, after, hput⟩ := mapM_around htexts
  rw [joinText_eq_fragments] at htext
  obtain ⟨C, inner, rest, c, hC, hwritten⟩ := h (map_succeeds_iff.mp ⟨text, htext⟩)
  obtain ⟨frame, hframe⟩ := hf.exists_frame
  have hisJoin : ∀ r, (f r).isJoin = frame.isJoin := fun r => by rw [hframe r]
  have hpredicates := (around_predicateSql hC frame.isJoin c inner rest).attached
  refine ⟨fun t => kind.text ++ " join" ++ (Text.attached (s.tableSql table)
      ++ Text.attached (predicateSql frame.isJoin (inner ++ (c, C t) :: rest))), before, after,
    (hpredicates.append_left _).append_left _, fun r t hr => ?_⟩
  rw [joinTexts_eq]
  refine hput _ _ ?_
  rw [joinText_eq_fragments, hwritten r t hr, hisJoin]
  rfl

/-- **A column with a place in it.**  A column is written if no function over the rows takes its
place, or if united statements keep it in a derived table. -/
lemma column (hs : s.dialect = .sqlServer) (h : s.Lifts C₀ r₀ f .select) (q : Query)
    (front back : List Column) (label : String) (hshown : q.aggregate = none ∨ q.arms ≠ []) :
    s.Lifts C₀ r₀ (fun r => { q with columns := some (front ++ .sub (f r) label :: back) })
      .select := by
  intro hselectable
  obtain ⟨table, w, hw⟩ := exists_writes (s := s) hselectable
  obtain ⟨C, before, after, hC, htexts⟩ := h.columns (hw.columns hshown)
  have hown : ownAggregate q = none := by
    rcases hshown with hnone | harms <;> simp_all [ownAggregate]
  refine ⟨fun t => s.serverText q table { w with columns := before ++ C t :: after },
    around_derived (around_columns hown hC before after) q, fun r t hr => ?_⟩
  have hnew : s.Writes { q with columns := some (front ++ .sub (f r) label :: back) } table
      { w with columns := before ++ C t :: after } :=
    { hw with columns := fun _ => htexts r t hr }
  exact hnew.selectText_eq hs

lemma group (hs : s.dialect = .sqlServer) (h : s.Lifts C₀ r₀ f .select) (q : Query)
    (front back : List Column) (label : String) :
    s.Lifts C₀ r₀ (fun r => { q with groups := front ++ .sub (f r) label :: back }) .select := by
  intro hselectable
  obtain ⟨table, w, hw⟩ := exists_writes (s := s) hselectable
  obtain ⟨C, before, after, hC, htexts⟩ := h.columns hw.groups
  refine ⟨fun t => s.serverText q table { w with groups := before ++ C t :: after },
    around_derived (around_groups hC before after) q, fun r t hr => ?_⟩
  have hnew : s.Writes { q with groups := front ++ .sub (f r) label :: back } table
      { w with groups := before ++ C t :: after } :=
    { hw with groups := htexts r t hr }
  exact hnew.selectText_eq hs

/-- A united statement with a place in it. -/
lemma arm (hs : s.dialect = .sqlServer) (h : s.Lifts C₀ r₀ f .select) (q : Query)
    (front back : List Arm) (all : Bool) :
    s.Lifts C₀ r₀ (fun r => { q with arms := front ++ ⟨f r, all⟩ :: back }) .select := by
  intro hselectable
  obtain ⟨table, w, hw⟩ := exists_writes (s := s) hselectable
  obtain ⟨C, before, after, hC, htexts⟩ := h.arms hw.arms
  let whole (r : Query) : Query := { q with arms := front ++ ⟨f r, all⟩ :: back }
  have hne : (whole r₀).arms ≠ [] := by simp [whole]
  refine ⟨fun t => s.serverText (whole r₀) table { w with arms := before ++ (all, C t) :: after },
    around_derived (around_arms hs hne hC all before after) (whole r₀), fun r t hr => ?_⟩
  have hnew : s.Writes (whole r) table { w with arms := before ++ (all, C t) :: after } :=
    { hw with columns := fun _ => hw.columns (.inr hne), arms := htexts r t hr }
  -- of the arms themselves only their texts are looked at, and whether there are any
  have hempty : ∀ r, (whole r).arms.isEmpty = false := by simp [whole]
  rw [hnew.selectText_eq hs]
  simp only [serverText, derived, serverSelect, serverClauses, selection, firstKeywords,
    ownAggregate, hempty]
  rfl

/-- A join with a place among its predicates. -/
lemma join (hs : s.dialect = .sqlServer) (h : s.Lifts C₀ r₀ f .predicates)
    (hf : Query.Place .predicates f) (q : Query) (front back : List Join) (kind : JoinKind)
    (joined : Table) :
    s.Lifts C₀ r₀ (fun r => { q with joins := front ++ ⟨kind, joined, f r⟩ :: back }) .select := by
  intro hselectable
  obtain ⟨table, w, hw⟩ := exists_writes (s := s) hselectable
  obtain ⟨C, before, after, hC, htexts⟩ := h.joins hf hw.joins
  refine ⟨fun t => s.serverText q table { w with joins := before ++ C t :: after },
    around_derived (around_joins hC before after) q, fun r t hr => ?_⟩
  have hnew : s.Writes { q with joins := front ++ ⟨kind, joined, f r⟩ :: back } table
      { w with joins := before ++ C t :: after } :=
    { hw with joins := htexts r t hr }
  exact hnew.selectText_eq hs

/-- A place among the predicates of a select is one of the select. -/
lemma filter (hs : s.dialect = .sqlServer) (h : s.Lifts C₀ r₀ f .predicates)
    (hf : Query.Place .predicates f) : s.Lifts C₀ r₀ f .select := by
  intro hselectable
  obtain ⟨table, w, hw⟩ := exists_writes (s := s) hselectable
  obtain ⟨C, inner, rest, c, hC, hwritten⟩ := h ⟨_, hw.predicates⟩
  obtain ⟨q, hframe⟩ := hf.exists_frame
  refine ⟨fun t => s.serverText q table { w with predicates := inner ++ (c, C t) :: rest },
    around_derived (around_predicates hC c inner rest) q, fun r t hr => ?_⟩
  have hnew : s.Writes { q with predicates := (f r).predicates } table
      { w with predicates := inner ++ (c, C t) :: rest } := by
    rw [hframe r₀] at hw
    exact { hw with predicates := hwritten r t hr }
  rw [hframe r]
  exact hnew.selectText_eq hs

/-- A place in the operand of a predicate. -/
lemma operand (h : s.Lifts C₀ r₀ f .select) (q : Query) (front back : List Predicate)
    {P : Query → Predicate} (hP : Predicate.Operand P) :
    s.Lifts C₀ r₀ (fun r => { q with predicates := front ++ P (f r) :: back }) .predicates := by
  rintro ⟨texts, htexts⟩
  rw [predicateTexts_eq] at htexts
  obtain ⟨⟨text, htext⟩, before, after, hput⟩ := mapM_around htexts
  obtain ⟨c, a, b, hP⟩ := s.exists_writePredicate hP
  rw [hP] at htext
  obtain ⟨sql, hsql⟩ := map_succeeds_iff.mp ⟨text, htext⟩
  obtain ⟨C, hC, hwritten⟩ := h (Query.selectable_of_text hsql)
  refine ⟨fun t => a ++ C t ++ b, before, after, c, (hC.append_left a).append_right b,
    fun r t hr => ?_⟩
  rw [predicateTexts_eq]
  refine hput _ _ ?_
  rw [hP, hwritten r t hr]
  rfl

lemma nested (h : s.Lifts C₀ r₀ f .predicates) (q : Query) (front back : List Predicate)
    (c : Conjunction) :
    s.Lifts C₀ r₀ (fun r => { q with predicates := front ++ .nested (f r) c :: back })
      .predicates := by
  rintro ⟨texts, htexts⟩
  rw [predicateTexts_eq] at htexts
  obtain ⟨⟨text, htext⟩, before, after, hput⟩ := mapM_around htexts
  rw [writePredicate_nested] at htext
  obtain ⟨C, inner, rest, c', hC, hwritten⟩ := h (map_succeeds_iff.mp ⟨text, htext⟩)
  refine ⟨fun t => "(" ++ Text.chain (inner ++ (c', C t) :: rest) ++ ")", before, after, c,
    ((hC.chain c' inner rest).append_left "(").append_right ")", fun r t hr => ?_⟩
  rw [predicateTexts_eq]
  refine hput _ _ ?_
  rw [writePredicate_nested, hwritten r t hr]
  rfl

end Style.Lifts

/-- **What is written around a place does not depend on what stands there**: the induction is on the
clauses on the way to the place, each of which puts constant texts around what is written of the
next. -/
theorem Query.Place.lifts {s : Style} {f : Query → Query} {C₀ : String → String} {r₀ : Query}
    (hs : s.dialect = .sqlServer) (hC₀ : Text.Around C₀) {e : Extent} (hf : Place e f) :
    s.Lifts C₀ r₀ f e := by
  induction hf with
  | whole => exact fun _ => ⟨C₀, hC₀, fun r t hr => hr⟩
  | column _ q front back label hshown ih => exact ih.column hs q front back label hshown
  | group _ q front back label ih => exact ih.group hs q front back label
  | arm _ q front back all ih => exact ih.arm hs q front back all
  | join hf q front back kind table ih => exact ih.join hs hf q front back kind table
  | filter hf ih => exact ih.filter hs hf
  | operand _ q front back hP ih => exact ih.operand q front back hP
  | nested _ q front back c ih => exact ih.nested q front back c

/-! ## All places -/

namespace Query

/-- Whether a query is written where another one is, at any depth. -/
def Renders (whole part : Query) : Prop :=
  Relation.ReflTransGen (fun outer inner => inner ∈ outer.subqueries) whole part

/-- Every select that is written with another one can be written. -/
lemma Selectable.of_renders {whole part : Query} (h : whole.Selectable)
    (hpart : whole.Renders part) : part.Selectable := by
  induction hpart with
  | refl => exact h
  | tail _ hmem ih => exact ((selectable_iff _).mp ih).2 _ hmem

namespace Place

variable {e : Extent} {f : Query → Query} {part : Query}

/-- The operand is the query of its predicate, and the only one that is written with it. -/
lemma operand_query {P : Query → Predicate} (hP : Predicate.Operand P) (r : Query) :
    (P r).query? = some r ∧ (P r).subqueries = [r] := by
  cases hP with
  | isIn | compare | «exists» => exact ⟨rfl, by rw [Predicate.subqueries]⟩

/-- The selects of a group are those of its predicates. -/
lemma subqueries_nested (q : Query) (c : Conjunction) :
    (Predicate.nested q c).subqueries = Predicate.allSubqueries q.predicates := by
  cases q
  rw [Predicate.subqueries]

/-- What belongs to one of several predicates belongs to them. -/
lemma mem_allSubqueries {front back : List Predicate} {p : Predicate} {sub : Query}
    (h : sub ∈ p.subqueries) : sub ∈ Predicate.allSubqueries (front ++ p :: back) := by
  induction front with
  | nil => exact List.mem_append_left _ h
  | cons first front ih => exact List.mem_append_right _ ih

/-- What stands at a place is written. -/
def Rendered (f : Query → Query) (r : Query) : Extent → Prop
  | .select => (f r).Renders r
  | .predicates => ∃ sub ∈ Predicate.allSubqueries (f r).predicates, sub.Renders r

/-- What stands at a place is written with the query around it. -/
lemma rendered (hf : Place e f) (r : Query) : Rendered f r e := by
  induction hf with
  | whole => exact .refl
  | column hf q front back label hshown ih =>
      refine .head ?_ ih
      have hnot : ¬(q.aggregate.isSome ∧ q.arms = []) := by
        rcases hshown with hnone | harms <;> simp_all
      simp [subqueries, columnSubqueries, hnot, Column.query?]
  | group hf q front back label ih => exact .head (by simp [subqueries, Column.query?]) ih
  | arm hf q front back all ih => exact .head (by simp [subqueries]) ih
  | join hf q front back kind table ih =>
      obtain ⟨sub, hsub, hrenders⟩ := ih
      refine .head ?_ hrenders
      simp only [subqueries, filterSubqueries, List.mem_append, List.mem_flatMap]
      exact .inl (.inl (.inr (.inl ⟨⟨kind, table, _⟩, .inr List.mem_cons_self, hsub⟩)))
  | filter hf ih =>
      obtain ⟨sub, hsub, hrenders⟩ := ih
      refine .head ?_ hrenders
      simp only [subqueries, filterSubqueries, List.mem_append]
      exact .inl (.inl (.inr (.inr hsub)))
  | @operand f hf q front back P hP ih =>
      exact ⟨f r, mem_allSubqueries (by rw [(operand_query hP _).2]; exact List.mem_cons_self), ih⟩
  | @nested f hf q front back c ih =>
      obtain ⟨sub, hsub, hrenders⟩ := ih
      exact ⟨sub, mem_allSubqueries (by rwa [subqueries_nested]), hrenders⟩

/-- What stands at a place is a part of the query around it. -/
lemma within (hf : Place e f) (r : Query) : r.Within (f r) := by
  induction hf with
  | whole => exact .refl
  | column hf q front back label hshown ih => exact .head (by simp [embedded, Column.query?]) ih
  | group hf q front back label ih => exact .head (by simp [embedded, Column.query?]) ih
  | arm hf q front back all ih => exact .head (by simp [embedded]) ih
  | join hf q front back kind table ih => exact .head (by simp [embedded]) ih
  | filter hf ih => exact ih
  | @operand f hf q front back P hP ih =>
      exact .head (by simp [embedded, (operand_query hP _).1]) ih
  | nested hf q front back c ih => exact .head (by simp [embedded, Predicate.query?]) ih

end Place

/-! ### There are no others -/

section

variable {f : Query → Query} {part : Query}

/-- A predicate with a place, in whatever list of predicates it stands. -/
def Takes (P : Query → Predicate) : Prop :=
  ∀ (q : Query) (front back : List Predicate),
    Place .predicates fun r => { q with predicates := front ++ P r :: back }

mutual

/-- A select of a predicate stands in it as its operand or, by recursion, in its group. -/
lemma exists_takes (hf : Place .select f) : ∀ p : Predicate, f part ∈ p.subqueries →
    ∃ P, Takes P ∧ P part = p
  | .isInSub column query negated c, h => by
      obtain rfl : f part = query := by simpa [Predicate.subqueries] using h
      exact ⟨_, fun q front back => .operand hf q front back (.isIn column negated c), rfl⟩
  | .compareSub column operator query c, h => by
      obtain rfl : f part = query := by simpa [Predicate.subqueries] using h
      exact ⟨_, fun q front back => .operand hf q front back (.compare column operator c), rfl⟩
  | .exists query negated c, h => by
      obtain rfl : f part = query := by simpa [Predicate.subqueries] using h
      exact ⟨_, fun q front back => .operand hf q front back (.exists negated c), rfl⟩
  | .nested ⟨style, kind, table, columns, distinct, aggregate, joins, predicates, groups, havings,
      orders, page, arms, unionOrders, unionPage, lock, bindings, insertion, assignments, sequence,
      usesWriter, isJoin, error⟩ c, h => by
      rw [Predicate.subqueries] at h
      obtain ⟨front, P, back, hP, rfl⟩ := exists_takes_of_mem hf predicates h
      exact ⟨_, fun q before after => .nested (hP ⟨style, kind, table, columns, distinct, aggregate,
        joins, [], groups, havings, orders, page, arms, unionOrders, unionPage, lock, bindings,
        insertion, assignments, sequence, usesWriter, isJoin, error⟩ front back) q before after c,
        rfl⟩
  | .compare _ _ _ _, h | .raw _ _, h | .isIn _ _ _ _, h | .isNull _ _ _, h
  | .between _ _ _ _ _, h | .columns _ _ _ _, h => by
      simp [Predicate.subqueries] at h

lemma exists_takes_of_mem (hf : Place .select f) : ∀ ps : List Predicate,
    f part ∈ Predicate.allSubqueries ps → ∃ front P back, Takes P ∧ ps = front ++ P part :: back
  | [], h => by simp [Predicate.allSubqueries] at h
  | p :: ps, h => by
      rw [Predicate.allSubqueries, List.mem_append] at h
      rcases h with h | h
      · obtain ⟨P, hP, rfl⟩ := exists_takes hf p h
        exact ⟨[], P, ps, hP, rfl⟩
      · obtain ⟨front, P, back, hP, rfl⟩ := exists_takes_of_mem hf ps h
        exact ⟨p :: front, P, back, hP, rfl⟩

end

/-- A select of a column is one that was given as a column. -/
lemma exists_of_mem_query? {columns : List Column} (h : part ∈ columns.filterMap Column.query?) :
    ∃ front label back, columns = front ++ .sub part label :: back := by
  obtain ⟨c, hc, hquery⟩ := List.mem_filterMap.mp h
  cases c with
  | name | raw => cases hquery
  | sub query label =>
      obtain rfl := Option.some.inj hquery
      obtain ⟨front, back, rfl⟩ := List.append_of_mem hc
      exact ⟨front, label, back, rfl⟩

/-- One more step on the way to a place. -/
lemma Place.exists_of_mem (hf : Place .select f) {q : Query} (h : f part ∈ q.subqueries) :
    ∃ g, Place .select g ∧ g part = q := by
  simp only [subqueries, filterSubqueries, List.mem_append, List.mem_flatMap, List.mem_map] at h
  -- The five clauses that hold selects, in the order of `subqueries`.
  rcases h with ((hcolumn | ⟨j, hj, hsub⟩ | hsub) | hgroup) | ⟨arm, harm, hquery⟩
  · rw [columnSubqueries] at hcolumn
    split_ifs at hcolumn with hhidden
    · simp at hcolumn
    · obtain ⟨front, label, back, heq⟩ := exists_of_mem_query? hcolumn
      have hcolumns : q.columns = some (front ++ .sub (f part) label :: back) := by
        cases hnamed : q.columns with
        | none => simp [hnamed] at heq
        | some columns => simpa [hnamed] using heq
      have hshown : q.aggregate = none ∨ q.arms ≠ [] := by
        simpa [Option.isSome_iff_ne_none, imp_iff_not_or] using hhidden
      refine ⟨_, .column hf q front back label hshown, ?_⟩
      simp only [← hcolumns]
      cases q
      rfl
  · obtain ⟨kind, table, query⟩ := j
    obtain ⟨before, P, after, hP, hpredicates⟩ := exists_takes_of_mem hf _ hsub
    obtain ⟨front, back, hjoins⟩ := List.append_of_mem hj
    refine ⟨_, .join (hP query before after) q front back kind table, ?_⟩
    simp only [← hpredicates]
    cases query
    simp only [← hjoins]
    cases q
    rfl
  · obtain ⟨before, P, after, hP, hpredicates⟩ := exists_takes_of_mem hf _ hsub
    refine ⟨_, .filter (hP q before after), ?_⟩
    simp only [← hpredicates]
    cases q
    rfl
  · obtain ⟨front, label, back, hgroups⟩ := exists_of_mem_query? hgroup
    refine ⟨_, .group hf q front back label, ?_⟩
    simp only [← hgroups]
    cases q
    rfl
  · obtain ⟨query, all⟩ := arm
    obtain rfl : query = f part := hquery
    obtain ⟨front, back, harms⟩ := List.append_of_mem harm
    refine ⟨_, .arm hf q front back all, ?_⟩
    simp only [← harms]
    cases q
    rfl

end

/-- **What is written stands at a place, and the other way round.** -/
theorem renders_iff_place {whole part : Query} :
    whole.Renders part ↔ ∃ f, Place .select f ∧ f part = whole := by
  constructor
  · intro h
    induction h using Relation.ReflTransGen.head_induction_on with
    | refl => exact ⟨_, .whole, rfl⟩
    | head hmem _ ih =>
        obtain ⟨f, hf, rfl⟩ := ih
        exact hf.exists_of_mem hmem
  · rintro ⟨f, hf, rfl⟩
    exact hf.rendered part

end Query

end SqlWeave
