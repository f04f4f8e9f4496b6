import SqlWeave.Proofs.Qualifiers

/-!
# Names with a schema

A table name may have a schema in front of its last dot, and a column of such a table has the whole
name in front of its own.  The table is written in two parts, with the table prefix on the last one;
the column is written part by part, with the prefix on the first one.

* `Style.table_dotted` — a table with a schema.
* `Style.column_dotted` — a column of such a table.
* `Quoting.Marks.schema_alike_iff` — when parts and prefix come out alike.
* `schema_names_alike_iff`, `schema_names_differ` — the statement, and names that are written in two
  ways.
-/

namespace SqlWeave

namespace Text

lemma cutLast?_dot (schema : String) {last : String} (hlast : '.' ∉ last.toList) :
    cutLast? '.' (schema ++ "." ++ last) = some (schema, last) := by
  rw [cutLast?, String.toList_append, String.toList_append, List.append_assoc]
  exact (congrArg _ (Chars.cutLast?_dot schema.toList hlast)).trans (by simp)

lemma intercalate_concat (first : String) (parts : List String) (last : String) :
    ".".intercalate (first :: (parts ++ [last]))
      = ".".intercalate (first :: parts) ++ "." ++ last := by
  rw [← List.cons_append, String.intercalate_append_of_ne_nil (List.cons_ne_nil _ _)
    (List.cons_ne_nil _ _), String.intercalate_singleton]

end Text

namespace Style

variable (s : Style) {first : String} {others : List String} {table column : String}

/-- **A table with a schema**: the whole schema is one part, and the prefix goes on the other. -/
lemma table_dotted (htable : '.' ∉ table.toList)
    (hbare : Text.splitAlias? (".".intercalate (first :: (others ++ [table]))) = none) :
    s.table (".".intercalate (first :: (others ++ [table])))
      = s.segment (".".intercalate (first :: others)) ++ "." ++ s.prefixed table := by
  rw [table_of_bare s hbare, bareTable, Text.intercalate_concat, Text.cutLast?_dot _ htable]

/-- **A column of a table with a schema**: each part is a part, and the prefix goes on the first. -/
lemma column_dotted (hdots : ∀ part ∈ first :: (others ++ [table]), '.' ∉ part.toList)
    (hbare : Text.splitAlias? (".".intercalate (first :: (others ++ [table]))) = none)
    (hflat : Text.Flat (".".intercalate (first :: (others ++ [table]))))
    (hcolumn : Text.Plain column) :
    s.column (".".intercalate (first :: (others ++ [table])) ++ "." ++ column)
      = ".".intercalate (s.prefixed first :: (others ++ [table]).map s.segment)
        ++ "." ++ s.segment column := by
  have hfirst : s.table first = s.prefixed first := by
    refine s.table_of_dotless (hdots first List.mem_cons_self) ?_
    rw [String.intercalate_cons_of_ne_nil (by simp), String.append_assoc] at hbare
    exact Text.splitAlias?_append hbare
  have hwhole := Text.splitAlias?_dot hbare hcolumn.bare
  have hflatWhole := hflat.dot hcolumn.flat
  rw [← Text.intercalate_concat] at hwhole hflatWhole ⊢
  rw [s.column_intercalate (by simp) ?_ hwhole hflatWhole, hfirst, List.map_append,
    List.map_singleton, Text.intercalate_concat]
  intro part hpart
  rw [← List.cons_append, List.mem_append, List.mem_singleton] at hpart
  rcases hpart with hpart | rfl
  · exact hdots part hpart
  · exact hcolumn.dotless

end Style

namespace Quoting.Marks

variable {q : Quoting} {opening closing : Char} (h : q.Marks opening closing)

include h

/-- Written parts are different where the parts are. -/
lemma segments_injective {parts parts' : List String} (hne : parts ≠ []) (hne' : parts' ≠ [])
    (hwritten : ".".intercalate (parts.map q.segment) = ".".intercalate (parts'.map q.segment)) :
    parts = parts' := by
  have hread := h.readName?_intercalate hne
  rw [hwritten, h.readName?_intercalate hne'] at hread
  exact (Option.some.inj hread).symm

/-- **Parts and prefix come out alike** only where there is no prefix and the schema is one part. -/
lemma schema_alike_iff {tablePrefix first table : String} {others : List String} :
    ".".intercalate (((tablePrefix ++ first) :: (others ++ [table])).map q.segment)
      = q.segment (".".intercalate (first :: others)) ++ "." ++ q.segment (tablePrefix ++ table)
      ↔ tablePrefix = "" ∧ others = [] := by
  constructor
  · intro hwritten
    have hpair : q.segment (".".intercalate (first :: others)) ++ "."
          ++ q.segment (tablePrefix ++ table)
        = ".".intercalate
          ([".".intercalate (first :: others), tablePrefix ++ table].map q.segment) := by
      simp
    obtain ⟨hfirst, hrest⟩ := List.cons.inj (h.segments_injective (List.cons_ne_nil _ _)
      (List.cons_ne_nil _ _) (hwritten.trans hpair))
    obtain rfl : others = [] := by
      have hlength := congrArg List.length hrest
      simpa using hlength
    rw [String.intercalate_singleton] at hfirst
    have hchars := congrArg String.toList hfirst
    exact ⟨by simpa using hchars, rfl⟩
  · rintro ⟨rfl, rfl⟩
    simp

end Quoting.Marks

/-! ## The statement -/

/-- **When names with a schema are written alike.**  The table has its whole schema as one part and
the table prefix behind it; the column has each part of the schema as a part and the prefix in front
of them.  Without a table prefix and with a schema of one part, these are the same.  With the quotes
of the dialects they are the same in no other case. -/
theorem schema_names_alike_iff (s : Style) {first : String} {others : List String}
    {table column : String} (hdots : ∀ part ∈ first :: (others ++ [table]), '.' ∉ part.toList)
    (hbare : Text.splitAlias? (".".intercalate (first :: (others ++ [table]))) = none)
    (hflat : Text.Flat (".".intercalate (first :: (others ++ [table]))))
    (hcolumn : Text.Plain column) :
    let name := ".".intercalate (first :: (others ++ [table]))
    let alike := s.column (name ++ "." ++ column) = s.table name ++ "." ++ s.segment column
    s.table name = s.segment (".".intercalate (first :: others)) ++ "." ++ s.prefixed table ∧
    s.column (name ++ "." ++ column)
      = ".".intercalate (s.prefixed first :: (others ++ [table]).map s.segment)
        ++ "." ++ s.segment column ∧
    (s.tablePrefix = "" → others = [] → alike) ∧
    ∀ opening closing, s.quoting.Marks opening closing →
      (alike ↔ s.tablePrefix = "" ∧ others = []) := by
  intro name alike
  have htableName : s.table name = _ :=
    s.table_dotted (hdots table (by simp)) hbare
  have hcolumnName : s.column (name ++ "." ++ column) = _ :=
    s.column_dotted hdots hbare hflat hcolumn
  refine ⟨htableName, hcolumnName, ?_, ?_⟩
  · intro hempty hothers
    subst hothers
    simp only [alike, htableName, hcolumnName]
    simp [Style.prefixed, hempty]
  · intro opening closing hmarks
    simp only [alike, htableName, hcolumnName, String.append_left_inj]
    exact hmarks.schema_alike_iff

/-- A schema of one part without and with a table prefix. -/
theorem schema_names_alike_iff_one_part :
    let plain := Style.plain .mysql
    let prefixed : Style := ⟨.mysql, none, "p_"⟩
    (∀ part ∈ "shop" :: ([] ++ ["users"]), '.' ∉ part.toList) ∧
    Text.splitAlias? "shop.users" = none ∧ Text.Flat "shop.users" ∧ Text.Plain "id" ∧
    Quoting.backtick.Marks '\x60' '\x60' ∧
    plain.table "shop.users" = "\x60shop\x60.\x60users\x60" ∧
    plain.column "shop.users.id" = "\x60shop\x60.\x60users\x60.\x60id\x60" ∧
    prefixed.column "shop.users.id" ≠ prefixed.table "shop.users" ++ "." ++ prefixed.segment "id" := by
  intro plain prefixed
  have hdots : ∀ part ∈ "shop" :: ([] ++ ["users"]), '.' ∉ part.toList := by decide
  have hbare : Text.splitAlias? "shop.users" = none := by decide +kernel
  have hflat : Text.Flat "shop.users" := by decide +kernel
  have hid : Text.Plain "id" := by decide +kernel
  have hname : ".".intercalate ("shop" :: ([] ++ ["users"])) = "shop.users" := by decide +kernel
  obtain ⟨htable, -, halike, -⟩ := schema_names_alike_iff plain hdots (hname ▸ hbare)
    (hname ▸ hflat) hid
  obtain ⟨-, -, -, hiff⟩ := schema_names_alike_iff prefixed hdots (hname ▸ hbare)
    (hname ▸ hflat) hid
  rw [hname] at htable halike hiff
  have hmarks : Quoting.backtick.Marks '\x60' '\x60' := .backtick
  refine ⟨hdots, hbare, hflat, hid, hmarks, htable.trans (by decide +kernel),
    (halike rfl rfl).trans (by decide +kernel), fun h => ?_⟩
  have hprefix := ((hiff _ _ hmarks).mp h).1
  exact absurd hprefix (by decide)

/-- With a prefix the schema of the column gets it instead of the table, and a schema of two parts
is one quoted part of the table and two of the column. -/
theorem schema_names_differ :
    let prefixed : Style := ⟨.ansi, none, "p_"⟩
    let plain := Style.plain .ansi
    prefixed.table "s.t" = "\"s\".\"p_t\"" ∧
    prefixed.column "s.t.c" = "\"p_s\".\"t\".\"c\"" ∧
    prefixed.column "s.t.c" ≠ prefixed.table "s.t" ++ "." ++ prefixed.segment "c" ∧
    plain.table "a.b.t" = "\"a.b\".\"t\"" ∧
    plain.column "a.b.t.c" = "\"a\".\"b\".\"t\".\"c\"" ∧
    plain.column "a.b.t.c" ≠ plain.table "a.b.t" ++ "." ++ plain.segment "c" := by
  decide +kernel

end SqlWeave
