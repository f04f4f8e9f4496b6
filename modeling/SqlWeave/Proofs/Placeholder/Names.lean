import SqlWeave.Proofs.Placeholder.Carries
import SqlWeave.Sql.Clause

/-!
# Names carry no values

A neat name stays neat when it is quoted, unless it names a place inside a document: then the path
is written as a literal, and that literal is closed.  So under a style whose own texts are neat no
name that is written adds a placeholder or leaves a literal open.

* `Style.Neat` — the texts that a style adds to names are neat.
* `Style.neat_table`, `Style.carries_column` — names of tables and of columns.
* `Style.carries_assignment` — an assignment carries the values that it binds.
-/

namespace SqlWeave

/-- The texts that a style puts around, in front of and into names have no marks. -/
structure Style.Neat (s : Style) : Prop where
  tablePrefix : Text.Neat s.tablePrefix
  opening : Text.Neat s.quoting.opening
  closing : Text.Neat s.quoting.closing
  substitute : Text.Neat s.quoting.substitute

instance (s : Style) : Decidable s.Neat :=
  decidable_of_iff (Text.Neat s.tablePrefix ∧ Text.Neat s.quoting.opening
      ∧ Text.Neat s.quoting.closing ∧ Text.Neat s.quoting.substitute)
    ⟨fun ⟨h₁, h₂, h₃, h₄⟩ => ⟨h₁, h₂, h₃, h₄⟩, fun ⟨h₁, h₂, h₃, h₄⟩ => ⟨h₁, h₂, h₃, h₄⟩⟩

namespace Style

variable {s : Style} {name : String}

/-! ## Parts and tables -/

/-- A part of a name in its quotes is neat if the quotes of the style are. -/
lemma neat_segment (hs : s.Neat) {part : String} (h : Text.Neat part) :
    Text.Neat (s.segment part) := by
  rw [segment, Quoting.segment]
  split_ifs
  · exact h
  · simp only [Text.neat_append]
    exact ⟨⟨hs.opening, Text.neat_replace _ hs.substitute h⟩, hs.closing⟩

lemma neat_prefixed (hs : s.Neat) {part : String} (h : Text.Neat part) :
    Text.Neat (s.prefixed part) :=
  neat_segment hs ((Text.neat_append ..).mpr ⟨hs.tablePrefix, h⟩)

/-- A table without an alias, by what is in front of its last dot and behind it. -/
lemma neat_bareTable (hs : s.Neat) (h : Text.Neat name) : Text.Neat (s.bareTable name) := by
  rw [bareTable]
  split
  · next schema last hsides =>
      obtain ⟨hschema, hlast⟩ := Text.neat_cutLast? h hsides
      simp only [Text.neat_append]
      exact ⟨⟨neat_segment hs hschema, by decide⟩, neat_prefixed hs hlast⟩
  · exact neat_prefixed hs h

lemma neat_table (hs : s.Neat) (h : Text.Neat name) : Text.Neat (s.table name) := by
  -- On the alias, whose sides are parts of the name.
  fun_induction table s name with
  | case1 whole name label hsides ih =>
      obtain ⟨hname, hlabel⟩ := Text.neat_splitAlias? h hsides
      simp only [Text.neat_append]
      exact ⟨⟨ih hname, by decide⟩, neat_prefixed hs hlabel⟩
  | case2 name _ => exact neat_bareTable hs h

/-- The label by which a change refers to a table. -/
lemma neat_tableAlias (hs : s.Neat) (h : Text.Neat name) :
    Text.Neat (s.tableAlias (.named name)) := by
  rw [tableAlias]
  split
  · next hsides => exact neat_prefixed hs (Text.neat_splitAlias? h hsides).2
  · exact neat_table hs h

/-! ## Places inside a document -/

/-- A path in its quotes has two single quotes around it and none inside. -/
lemma carries_quotedPath {path : List String} (h : ∀ step ∈ path, Text.Neat step) :
    Text.Carries (quotedPath path) [] := by
  have hbody : Text.Neat ("$." ++ ".".intercalate
      (path.map fun step => "\"" ++ Text.doubleQuotes step ++ "\"")) := by
    refine (Text.neat_append ..).mpr ⟨by decide, Text.neat_intercalate (by decide) ?_⟩
    intro part hpart
    obtain ⟨step, hstep, rfl⟩ := List.mem_map.mp hpart
    simp only [Text.neat_append, Text.doubleQuotes_of_neat (h step hstep)]
    exact ⟨⟨by decide, h step hstep⟩, by decide⟩
  have hwhole := Text.carries_literal hbody
  rwa [← String.append_assoc] at hwhole

lemma carries_arrowKey {step : String} (h : Text.Neat step) : Text.Carries (arrowKey step) [] := by
  rw [arrowKey]
  split_ifs
  · exact h.carries
  · rw [Text.doubleQuotes_of_neat h]
    exact Text.carries_literal h

lemma carries_arrowChain : ∀ {path : List String}, (∀ step ∈ path, Text.Neat step) →
    Text.Carries (arrowChain path) []
  | [], _ => Text.Neat.carries (by decide)
  | [step], h =>
      (Text.Neat.carries (s := "->>") (by decide)).append
        (carries_arrowKey (h step List.mem_cons_self))
  | step :: next :: path, h =>
      ((Text.Neat.carries (s := "->") (by decide)).append
        (carries_arrowKey (h step List.mem_cons_self))).append
        (carries_arrowChain fun p hp => h p (List.mem_cons_of_mem step hp))

/-- A place inside of a document closes the literals that it opens, in each dialect's own way to
write one. -/
lemma carries_jsonPlace? {field place : String} {path : List String}
    (hfield : Text.Carries field []) (hpath : ∀ step ∈ path, Text.Neat step)
    (h : s.jsonPlace? field path = some place) : Text.Carries place [] := by
  have constant : ∀ {t : String}, Text.Neat t → Text.Carries t [] := fun ht => ht.carries
  rw [jsonPlace?] at h
  cases hdialect : s.dialect <;> rw [hdialect] at h
  case ansi => cases h
  case mysql =>
      cases h
      exact (hfield.append (constant (by decide))).append (carries_quotedPath hpath)
  case postgres =>
      cases h
      exact hfield.append (carries_arrowChain hpath)
  case sqlServer | sqlite =>
      cases h
      exact ((((constant (by decide)).append hfield).append (constant (by decide))).append
        (carries_quotedPath hpath)).append (constant (by decide))

/-! ## Columns -/

/-- A dotted name is its parts and dots. -/
lemma neat_dotted (hs : s.Neat) (h : Text.Neat name) : Text.Neat (s.dotted name) := by
  have hparts : ∀ p ∈ Text.pieces '.' name, Text.Neat p := Text.neat_pieces h
  refine Text.neat_intercalate (by decide) ?_
  have hsegments : ∀ parts : List String, (∀ p ∈ parts, Text.Neat p) →
      ∀ part ∈ parts.map s.segment, Text.Neat part := by
    intro parts hall part hpart
    obtain ⟨p, hp, rfl⟩ := List.mem_map.mp hpart
    exact neat_segment hs (hall p hp)
  generalize Text.pieces '.' name = parts at hparts
  match parts with
  | [] | [_] => exact hsegments _ hparts
  | first :: second :: rest =>
      obtain ⟨hfirst, hrest⟩ := List.forall_mem_cons.mp hparts
      exact List.forall_mem_cons.mpr ⟨neat_table hs hfirst, hsegments (second :: rest) hrest⟩

/-- A column without an alias: a dotted name, or a place inside of a document. -/
lemma carries_bareColumn (hs : s.Neat) (h : Text.Neat name) :
    Text.Carries (s.bareColumn name) [] := by
  rw [bareColumn]
  split
  · next field step path hpieces =>
      have hparts := Text.neat_arrowPieces h
      rw [hpieces] at hparts
      obtain ⟨hfield, hpath⟩ := List.forall_mem_cons.mp hparts
      cases hplace : s.jsonPlace? (s.dotted field) (step :: path) with
      | none => exact (neat_dotted hs h).carries
      | some place => exact carries_jsonPlace? (neat_dotted hs hfield).carries hpath hplace
  · exact (neat_dotted hs h).carries

/-- **The name of a column has no placeholder and leaves no literal open**, though it may have
literals for the steps of a path. -/
lemma carries_column (hs : s.Neat) (h : Text.Neat name) : Text.Carries (s.column name) [] := by
  fun_induction column s name with
  | case1 whole name label hsides ih =>
      obtain ⟨hname, hlabel⟩ := Text.neat_splitAlias? h hsides
      exact ((ih hname).append (Text.Neat.carries (by decide))).append
        (neat_segment hs hlabel).carries
  | case2 name _ => exact carries_bareColumn hs h

/-! ## Assignments -/

/-- A number that a dialect writes into the text is neat. -/
lemma neat_of_inlineNumber? {p : Param} {written : String} (h : inlineNumber? p = some written) :
    Text.Neat written := by
  cases p with
  | raw sql => cases h
  | value v =>
      cases v with
      | bool b =>
          cases h
          cases b <;> decide
      | int n =>
          cases h
          exact Text.neat_toString_int _
      | uint n =>
          cases h
          exact Text.neat_toString_nat _
      | float x =>
          cases h
          exact Double.neat_plainText x
      | _ => cases h

/-- An assignment carries the values that it binds. -/
lemma carries_assignment (hs : s.Neat) (h : Text.Neat name) {p : Param}
    (hp : Text.Carries p.sql p.value?.toList) :
    Text.Carries (s.assignment name p).1 (s.assignment name p).2 := by
  have constant : ∀ {t : String}, Text.Neat t → Text.Carries t [] := fun ht => ht.carries
  unfold assignment
  split
  · next field step path _ hpieces =>
      have hparts := Text.neat_arrowPieces h
      rw [hpieces] at hparts
      obtain ⟨hfield, hpath⟩ := List.forall_mem_cons.mp hparts
      have hcolumn := carries_column hs hfield
      have hopened := ((((hcolumn.append (constant (t := " = json_set(") (by decide))).append
        hcolumn).append (constant (t := ", ") (by decide))).append
        (carries_quotedPath hpath)).append (constant (t := ", ") (by decide))
      simp only [documentAssignment]
      cases hnumber : inlineNumber? p with
      | some written =>
          exact (hopened.append (constant (neat_of_inlineNumber? hnumber))).append
            (constant (by decide))
      | none =>
          have hclosed := (hopened.append hp).append (constant (t := ")") (by decide))
          rwa [List.append_nil] at hclosed
  · exact ((carries_column hs h).append (constant (t := " = ") (by decide))).append hp

end Style

end SqlWeave
