import SqlWeave.Proofs.Reading.Names
import SqlWeave.Sql.Write

/-!
# Qualified columns

What stands in front of the dot of a column says which table the column is of: the table itself or
the alias that it has in the statement.  The table, its alias, the alias once more and the qualifier
are written at different places, each of which splits the name again and puts the table prefix on,
and they have to come out as the same quoted name.

* `Text.Plain` — names of one part.
* `Style.column_intercalate` — **a column of several parts**, of which the first is a table.
* `Style.Introduces` — how the statements declare a table and how they refer to it.
* `qualifiers_name_tables` — the statement.
-/

namespace SqlWeave

/-! ## Names put together with dots

Neither the word of an alias nor an arrow reaches over a dot. -/

namespace Chars

/-- A dot is none of the letters of the word, nor the blank behind it. -/
lemma afterWord?_dot {s : List Char} (h : afterWord? s = none) (t : List Char) :
    afterWord? (s ++ '.' :: t) = none := by
  match s, t with
  | [], [] | [], [_] | [_], [] => rfl
  | [], _ :: _ :: _ => simp [afterWord?, isLetterA]
  | [_], _ :: _ => simp [afterWord?, isLetterS]
  | [_, _], t => simp [afterWord?, isBlank]
  | a :: b :: c :: r, t => simpa [afterWord?] using h

/-- Blanks are skipped up to the dot at the latest. -/
lemma dropWhile_dot (s t : List Char) :
    (s ++ '.' :: t).dropWhile isBlank = s.dropWhile isBlank ++ '.' :: t := by
  have hdot : ('.' :: t).dropWhile isBlank = '.' :: t :=
    List.dropWhile_cons_of_neg (by decide)
  rw [List.dropWhile_append, hdot]
  split_ifs with hempty
  · rw [List.isEmpty_iff.mp hempty, List.nil_append]
  · rfl

/-- Two texts without an alias have none with a dot between them. -/
lemma splitAlias?_dot {s t : List Char} (hs : splitAlias? s = none) (ht : splitAlias? t = none) :
    splitAlias? (s ++ '.' :: t) = none := by
  induction s with
  | nil =>
      have hdot : afterSeparator? ('.' :: t) = none := rfl
      rw [List.nil_append, splitAlias?, hdot, ht]
      rfl
  | cons c r ih =>
      rw [splitAlias?, Option.or_eq_none_iff, Option.map_eq_none_iff, Option.map_eq_none_iff,
        afterSeparator?] at hs
      rw [List.cons_append, splitAlias?, Option.or_eq_none_iff, Option.map_eq_none_iff,
        Option.map_eq_none_iff, afterSeparator?, dropWhile_dot]
      refine ⟨?_, ih hs.2⟩
      split_ifs with hblank
      · rw [if_pos hblank] at hs
        exact afterWord?_dot hs.1 t
      · rfl

/-- Two texts without an arrow have none with a dot between them. -/
lemma hasArrow_dot {s t : List Char} (hs : hasArrow s = false) (ht : hasArrow t = false) :
    hasArrow (s ++ '.' :: t) = false := by
  fun_induction hasArrow s with
  | case1 r => cases hs
  | case2 c r hfirst ih =>
      rw [List.cons_append, hasArrow.eq_def]
      split
      · next heq =>
          obtain ⟨rfl, hr⟩ := List.cons.inj heq
          cases r with
          | nil => cases hr
          | cons d r =>
              obtain ⟨rfl, -⟩ := List.cons.inj hr
              exact absurd rfl (hfirst r rfl)
      · next heq => exact (List.cons.inj heq).2 ▸ ih hs
      · rfl
  | case3 => simpa [hasArrow] using ht

/-- **Parts are found again** where the mark between them is in none of them. -/
lemma pieces_intercalate {mark : Char} {parts : List (List Char)} (hne : parts ≠ [])
    (h : ∀ part ∈ parts, mark ∉ part) : pieces mark ([mark].intercalate parts) = parts := by
  rw [pieces_eq_splitOn, List.splitOn_intercalate mark h hne]

/-- Where what follows a mark has no other one, the cut is there. -/
lemma cutLast?_dot {mark : Char} (s : List Char) {t : List Char} (h : mark ∉ t) :
    cutLast? mark (s ++ mark :: t) = some (s, t) := by
  induction s with
  | nil => rw [List.nil_append, cutLast?, cutLast?_of_notMem h, if_pos rfl]
  | cons c r ih => rw [List.cons_append, cutLast?, ih]

end Chars

namespace Text

lemma splitAlias?_dot {s t : String} (hs : splitAlias? s = none) (ht : splitAlias? t = none) :
    splitAlias? (s ++ "." ++ t) = none := by
  rw [splitAlias?, Option.map_eq_none_iff] at hs ht ⊢
  rw [String.toList_append, String.toList_append, List.append_assoc]
  exact Chars.splitAlias?_dot hs ht

lemma Flat.dot {s t : String} (hs : Flat s) (ht : Flat t) : Flat (s ++ "." ++ t) := by
  rw [Flat, hasArrow, String.toList_append, String.toList_append, List.append_assoc]
  exact Chars.hasArrow_dot hs ht

lemma pieces_intercalate {parts : List String} (hne : parts ≠ [])
    (h : ∀ part ∈ parts, '.' ∉ part.toList) : pieces '.' (".".intercalate parts) = parts := by
  have hchars : Chars.pieces '.' (['.'].intercalate (parts.map String.toList)) =
      parts.map String.toList :=
    Chars.pieces_intercalate (by simpa using hne) (by simpa using h)
  rw [pieces, String.toList_intercalate]
  exact (congrArg _ hchars).trans (by simp [Function.comp_def])

/-- A name of one part: without dots, without arrows and without an alias. -/
structure Plain (name : String) : Prop where
  dotless : '.' ∉ name.toList
  flat : Flat name
  bare : splitAlias? name = none

instance (name : String) : Decidable (Plain name) :=
  decidable_of_iff ('.' ∉ name.toList ∧ Flat name ∧ splitAlias? name = none)
    ⟨fun ⟨h₁, h₂, h₃⟩ => ⟨h₁, h₂, h₃⟩, fun ⟨h₁, h₂, h₃⟩ => ⟨h₁, h₂, h₃⟩⟩

end Text

namespace Style

/-! ## Columns of several parts -/

/-- **A column of several parts**: the first is written as a table and the others as they are. -/
lemma column_intercalate (s : Style) {first : String} {rest : List String} (hrest : rest ≠ [])
    (hdots : ∀ part ∈ first :: rest, '.' ∉ part.toList)
    (hbare : Text.splitAlias? (".".intercalate (first :: rest)) = none)
    (hflat : Text.Flat (".".intercalate (first :: rest))) :
    s.column (".".intercalate (first :: rest))
      = ".".intercalate (s.table first :: rest.map s.segment) := by
  obtain ⟨piece, hpiece⟩ := hflat.arrowPieces_eq
  obtain ⟨second, later, rfl⟩ := List.exists_cons_of_ne_nil hrest
  rw [column_of_bare s hbare, bareColumn, hpiece]
  simp only [dotted, Text.pieces_intercalate (List.cons_ne_nil _ _) hdots, qualified, List.map_cons]

/-- A column with a qualifier of one part. -/
lemma column_qualified (s : Style) {qualifier column : String} (hqualifier : Text.Plain qualifier)
    (hcolumn : Text.Plain column) :
    s.column (qualifier ++ "." ++ column) = s.table qualifier ++ "." ++ s.segment column := by
  have hname : qualifier ++ "." ++ column = ".".intercalate [qualifier, column] := by simp
  rw [hname, s.column_intercalate (List.cons_ne_nil _ _)]
  · simp
  · simpa using ⟨hqualifier.dotless, hcolumn.dotless⟩
  · exact hname ▸ Text.splitAlias?_dot hqualifier.bare hcolumn.bare
  · exact hname ▸ hqualifier.flat.dot hcolumn.flat

/-! ## Tables in statements -/

/-- **How statements name a table**: as it is declared in the table of a select, in a join and among
the tables of a joined change, and by its label where that change says which table it is about. -/
structure Introduces (s : Style) (name declared label : String) : Prop where
  selected : ∀ lock, s.fromSql (.named name) lock = "from " ++ declared ++ s.lockHint lock
  joined : ∀ (kind : JoinKind) (q : Query), s.joinText ⟨kind, .named name, q⟩
    = (s.ownPredicateTexts q).map fun predicates =>
      Text.phrase [kind.text ++ " join", declared, predicateSql q.isJoin predicates]
  deleted : ∀ q : Query, q.table = some (.named name) → q.joins ≠ [] →
    s.dialect = .mysql ∨ s.dialect = .sqlServer →
    (s.delete q).map (·.sql) = (s.joinsSql q).bind fun joins => (s.filterSql q).map fun filter =>
      Text.phrase ["delete " ++ label ++ " from " ++ declared, joins, filter]
  updated : ∀ q : Query, q.table = some (.named name) → q.joins ≠ [] → s.dialect = .sqlServer →
    (s.update q).map (·.sql) = (s.assignmentList q).bind fun set =>
      (s.joinsSql q).bind fun joins => (s.filterSql q).map fun filter =>
        Text.phrase ["update " ++ label ++ " set " ++ set.1, "from " ++ declared, joins, filter]

/-- A table is declared with its alias, and the label of a joined change is that alias or the
table. -/
lemma introduces (s : Style) (name : String) :
    s.Introduces name (s.table name) (s.tableAlias (.named name)) where
  selected _ := rfl
  joined _ _ := rfl
  deleted q htable hjoins hdialect := by
    have hnonempty : q.joins.isEmpty = false := by simpa using hjoins
    rw [delete, Query.requireTable, htable]
    simp only [bind, Except.bind, hnonempty, hdialect, deleteJoined, tableSql, if_true, if_false,
      Bool.false_eq_true]
    cases s.joinsSql q with
    | error e => rfl
    | ok joins =>
        cases s.filterSql q with
        | error e => rfl
        | ok filter => simp only [pure, Except.pure, Except.map]
  updated q htable hjoins hdialect := by
    have hnonempty : q.joins.isEmpty = false := by simpa using hjoins
    rw [update, Query.requireTable, htable]
    simp only [bind, Except.bind, hnonempty, hdialect, tableSql, not_false_eq_true, and_self,
      Bool.false_eq_true, reduceCtorEq, if_true, if_false]
    cases s.assignmentList q with
    | error e => rfl
    | ok set =>
        cases s.joinsSql q with
        | error e => rfl
        | ok joins =>
            cases s.filterSql q with
            | error e => rfl
            | ok filter => simp only [pure, Except.pure, Except.map]

end Style

/-! ## The statement -/

/-- **Qualifiers name the tables that statements declare.**  A column qualified with a table of one
part is written as that table, a dot and the column.  A table with an alias is written with one
quoted name for the alias: the statements that declare it have this name behind `as`, joined
deletions and updates refer to the table by it, and a column qualified with the alias has it in front
of its dot. -/
theorem qualifiers_name_tables (s : Style) {column : String} (hcolumn : Text.Plain column) :
    (∀ name, Text.Plain name →
      s.column (name ++ "." ++ column) = s.table name ++ "." ++ s.segment column) ∧
    ∀ name left label, Text.splitAlias? name = some (left, label) → Text.Plain label →
      ∃ quoted,
        s.table name = s.table left ++ " as " ++ quoted ∧
        s.tableAlias (.named name) = quoted ∧
        s.column (label ++ "." ++ column) = quoted ++ "." ++ s.segment column ∧
        s.Introduces name (s.table left ++ " as " ++ quoted) quoted := by
  refine ⟨fun name hname => s.column_qualified hname hcolumn, ?_⟩
  intro name left label hsplit hlabel
  have htable := s.table_of_alias hsplit
  have hreference : s.tableAlias (.named name) = s.prefixed label := by
    simp [Style.tableAlias, hsplit]
  have hintroduces := s.introduces name
  rw [hreference, htable] at hintroduces
  refine ⟨s.prefixed label, htable, hreference, ?_, hintroduces⟩
  rw [s.column_qualified hlabel hcolumn, s.table_of_dotless hlabel.dotless hlabel.bare]

/-- A table with a schema, a prefix and an alias in capitals between blanks of several kinds, in a
joined deletion and a joined update. -/
theorem qualifiers_name_tables_joined_change :
    let s : Style := ⟨.sqlServer, none, "p_"⟩
    let name := "shop.users \tAS\n u"
    let join : Join := ⟨.cross, .named "logs", .empty s⟩
    let q : Query := { Query.empty s with
      table := some (.named name), joins := [join], assignments := [("u.a", .raw "0")] }
    Text.Plain "id" ∧ Text.Plain "logs" ∧ Text.Plain "u" ∧
    Text.splitAlias? name = some ("shop.users", "u") ∧
    s.column "logs.id" = "[p_logs].[id]" ∧
    s.table name = "[shop].[p_users] as [p_u]" ∧
    s.column "u.id" = "[p_u].[id]" ∧
    ((s.delete q).map (·.sql)).toOption
      = some "delete [p_u] from [shop].[p_users] as [p_u] cross join [p_logs]" ∧
    ((s.update q).map (·.sql)).toOption
      = some ("update [p_u] set [p_u].[a] = 0 from [shop].[p_users] as [p_u] "
        ++ "cross join [p_logs]") := by
  intro s name join q
  have hid : Text.Plain "id" := by decide +kernel
  have hlogs : Text.Plain "logs" := by decide +kernel
  have hu : Text.Plain "u" := by decide +kernel
  have hsplit : Text.splitAlias? name = some ("shop.users", "u") := by decide +kernel
  obtain ⟨hplain, halias⟩ := qualifiers_name_tables s hid
  obtain ⟨_, htable, rfl, hcolumn, hintroduces⟩ := halias name "shop.users" "u" hsplit hu
  have hjoins : q.joins ≠ [] := List.cons_ne_nil _ _
  refine ⟨hid, hlogs, hu, hsplit, ?_, ?_, ?_, ?_, ?_⟩
  · exact (hplain "logs" hlogs).trans (by decide +kernel)
  · exact htable.trans (by decide +kernel)
  · exact hcolumn.trans (by decide +kernel)
  · exact (congrArg _ (hintroduces.deleted q rfl hjoins (Or.inr rfl))).trans (by decide +kernel)
  · exact (congrArg _ (hintroduces.updated q rfl hjoins rfl)).trans (by decide +kernel)

end SqlWeave
