import SqlWeave.Proofs.Portability.SharedStyles
import SqlWeave.Proofs.Reading.Quoted

/-!
# Quoted names are read back

A part of a name may hold anything, its own quotes included, and a part that is a star is not quoted
at all.  Whoever reads a quoted name with the same quotes finds the parts again, so no part closes
its quotes early and different names stay different.

* `Quoting.Marks` — the quotings with a closing quote that is doubled inside of a part.
* `Text.readPart?`, `Text.readName?` — **the readers**, told by the quotes alone.
* `Style.dotted_eq_identifier` — a column name is quoted as any other name, although its qualifier
  is written as a table.
* `quoted_names_read_back` — the statement.
-/

namespace SqlWeave

/-! ## Pieces between dots -/

namespace Chars

variable {mark : Char}

/-- What is known of a split list holds of the pieces. -/
lemma pieces_eq_splitOn (mark : Char) (s : List Char) : pieces mark s = s.splitOn mark := by
  induction s with
  | nil => exact (List.splitOn_nil mark).symm
  | cons c r ih =>
      obtain ⟨piece, later, hsplit⟩ := List.exists_cons_of_ne_nil (List.splitOn_ne_nil mark r)
      rw [pieces, ih, hsplit]
      rw [List.splitOn_eq_splitOnP] at hsplit ⊢
      rw [List.splitOnP_cons_eq_if_modifyHead, hsplit]
      simp only [beq_iff_eq]
      rfl

/-- Even the empty text is one piece. -/
lemma pieces_ne_nil (mark : Char) (s : List Char) : pieces mark s ≠ [] := by
  rw [pieces_eq_splitOn]
  exact List.splitOn_ne_nil mark s

/-- With the mark between them again, the pieces are the text. -/
lemma intercalate_pieces (mark : Char) (s : List Char) :
    [mark].intercalate (pieces mark s) = s := by
  rw [pieces_eq_splitOn, List.intercalate_splitOn]

lemma notMem_of_mem_pieces {s p : List Char} (h : p ∈ pieces mark s) : mark ∉ p := by
  induction s generalizing p with
  | nil =>
      rw [List.mem_singleton.mp h]
      exact List.not_mem_nil
  | cons c r ih =>
      obtain ⟨piece, later, hpieces⟩ := List.exists_cons_of_ne_nil (pieces_ne_nil mark r)
      rw [pieces, hpieces] at h
      rw [hpieces] at ih
      split_ifs at h with hc
      · rcases List.mem_cons.mp h with rfl | h
        · exact List.not_mem_nil
        · exact ih h
      · rcases List.mem_cons.mp h with rfl | h
        · rw [List.mem_cons, not_or]
          exact ⟨Ne.symm hc, ih List.mem_cons_self⟩
        · exact ih (List.mem_cons_of_mem piece h)

/-- Without a mark there is nothing to cut at. -/
lemma cutLast?_of_notMem {s : List Char} (h : mark ∉ s) : cutLast? mark s = none := by
  induction s with
  | nil => rfl
  | cons c r ih =>
      rw [List.mem_cons, not_or] at h
      simp [cutLast?, ih h.2, Ne.symm h.1]

/-! ## Aliases in a part -/

/-- The word of a separator is found again when text is added behind it. -/
lemma afterWord?_append {s rest : List Char} (h : afterWord? s = some rest) (t : List Char) :
    (afterWord? (s ++ t)).isSome := by
  match s with
  | [] | [_] | [_, _] => cases h
  | a :: b :: c :: r =>
      simp only [afterWord?, Option.ite_none_right_eq_some] at h
      simp [afterWord?, h.1]

/-- And so is the whole separator, as its blanks before the word end inside of the text. -/
lemma afterSeparator?_append {s rest : List Char} (h : afterSeparator? s = some rest)
    (t : List Char) : (afterSeparator? (s ++ t)).isSome := by
  cases s with
  | nil => cases h
  | cons c r =>
      simp only [afterSeparator?, Option.ite_none_right_eq_some] at h
      have hne : r.dropWhile isBlank ≠ [] := by
        rintro hnil
        rw [hnil] at h
        cases h.2
      rw [List.cons_append, afterSeparator?, if_pos h.1, List.dropWhile_append,
        if_neg (by simpa using hne)]
      exact afterWord?_append h.2 t

/-- A text without an alias does not begin with one that has an alias. -/
lemma splitAlias?_append {s t : List Char} (h : splitAlias? (s ++ t) = none) :
    splitAlias? s = none := by
  induction s with
  | nil => rfl
  | cons c r ih =>
      rw [List.cons_append, splitAlias?, Option.or_eq_none_iff, Option.map_eq_none_iff,
        Option.map_eq_none_iff] at h
      rw [splitAlias?, Option.or_eq_none_iff, Option.map_eq_none_iff, Option.map_eq_none_iff]
      refine ⟨Option.eq_none_iff_forall_ne_some.mpr fun rest hrest => ?_, ih h.2⟩
      have hsome := afterSeparator?_append hrest t
      rw [List.cons_append, h.1] at hsome
      cases hsome

end Chars

/-! ## The readers -/

namespace Text

/-- Reads one part of a name, and what follows it. -/
def readPart? (opening closing : Char) (s : String) : Option (String × String) :=
  (Chars.readPart? opening closing s.toList).map fun read =>
    (String.ofList read.1, String.ofList read.2)

/-- Reads the parts of a name to its end. -/
def readName? (opening closing : Char) (s : String) : Option (List String) :=
  (Chars.readParts? opening closing s.toList).map fun parts => parts.map String.ofList

lemma pieces_ne_nil (mark : Char) (s : String) : pieces mark s ≠ [] := by
  rw [pieces, Ne, List.map_eq_nil_iff]
  exact Chars.pieces_ne_nil mark s.toList

/-- Dots between the pieces give the name back. -/
lemma intercalate_pieces (s : String) : ".".intercalate (pieces '.' s) = s := by
  rw [← String.toList_inj, String.toList_intercalate, pieces, List.map_map]
  have hchars : String.toList ∘ String.ofList = id := funext fun _ => String.toList_ofList
  rw [hchars, List.map_id]
  exact Chars.intercalate_pieces '.' s.toList

lemma notMem_of_mem_pieces {mark : Char} {s p : String} (h : p ∈ pieces mark s) :
    mark ∉ p.toList := by
  obtain ⟨cs, hcs, rfl⟩ := List.mem_map.mp h
  rw [String.toList_ofList]
  exact Chars.notMem_of_mem_pieces hcs

/-- A part of a name without an alias has none: the separator would be one of the whole name. -/
lemma splitAlias?_append {s t : String} (h : splitAlias? (s ++ t) = none) :
    splitAlias? s = none := by
  rw [splitAlias?, Option.map_eq_none_iff, String.toList_append] at h
  rw [splitAlias?, Option.map_eq_none_iff]
  exact Chars.splitAlias?_append h

end Text

/-! ## Parts -/

namespace Quoting

/-- The quotings that double their closing quote inside of a part, with their two quotes. -/
inductive Marks : Quoting → Char → Char → Prop
  | ansi : Marks .ansi '"' '"'
  | backtick : Marks .backtick '\x60' '\x60'
  | bracket : Marks .bracket '[' ']'

namespace Marks

variable {q : Quoting} {opening closing : Char} (h : q.Marks opening closing)

include h

/-- A style never quotes with the asterisk, so a quoted part is told from all columns. -/
lemma opening_ne : opening ≠ '*' := by
  cases h <;> decide

/-- Nor with the dot, so a closing mark is told from a dot between parts. -/
lemma closing_ne : closing ≠ '.' := by
  cases h <;> decide

/-- A part that is not the asterisk is quoted, with its closing marks doubled. -/
lemma toList_segment {part : String} (hpart : part ≠ "*") :
    (q.segment part).toList
      = opening :: (Chars.doubled closing part.toList ++ [closing]) := by
  have hbody : Chars.replace q.special.toList q.substitute.toList part.toList
      = Chars.doubled closing part.toList := by
    cases h <;> exact Chars.replace_singleton _ _ _
  have hopening : q.opening.toList = [opening] := by cases h <;> rfl
  have hclosing : q.closing.toList = [closing] := by cases h <;> rfl
  rw [segment, if_neg hpart, String.toList_append, String.toList_append, Text.replace,
    String.toList_ofList, hbody, hopening, hclosing, List.singleton_append, List.cons_append]

/-- **A part is read back**, whatever but a closing quote follows it. -/
lemma readPart?_segment (part : String) {rest : List Char} (hrest : rest.head? ≠ some closing) :
    Chars.readPart? opening closing ((q.segment part).toList ++ rest)
      = some (part.toList, rest) := by
  by_cases hpart : part = "*"
  · subst hpart
    have hstar : (q.segment "*").toList = ['*'] := by rw [segment, if_pos rfl]; rfl
    rw [hstar]
    rfl
  · rw [h.toList_segment hpart, List.cons_append, List.append_assoc, List.singleton_append,
      Chars.readPart?, if_neg h.opening_ne, if_pos rfl, Chars.readQuoted?_doubled _ _ hrest]

/-- **Parts are read back** whatever is in them, dots included. -/
lemma readName?_intercalate {parts : List String} (hparts : parts ≠ []) :
    Text.readName? opening closing (".".intercalate (parts.map q.segment)) = some parts := by
  have hread := Chars.readParts?_intercalate h.closing_ne hparts
    fun part _ rest hrest => h.readPart?_segment part hrest
  have htext : (parts.map String.toList).map String.ofList = parts := by
    simp [Function.comp_def]
  rw [Text.readName?, String.toList_intercalate, List.map_map]
  exact (congrArg _ hread).trans (congrArg some htext)

/-- **A name is read back**, part by part. -/
lemma readName?_identifier (name : String) :
    Text.readName? opening closing (q.identifier name) = some (Text.pieces '.' name) :=
  h.readName?_intercalate (Text.pieces_ne_nil '.' name)

/-- Two identifiers that are written alike are the same, as what is written can be read back. -/
lemma identifier_injective : Function.Injective q.identifier := by
  intro a b hab
  have hpieces := h.readName?_identifier a
  rw [hab, h.readName?_identifier b, Option.some.injEq] at hpieces
  rw [← Text.intercalate_pieces a, ← hpieces, Text.intercalate_pieces]

end Marks

end Quoting

/-! ## Columns -/

namespace Style

variable {s : Style} {name : String}

/-- A table of one part is that part with the table prefix on it. -/
lemma table_of_dotless (s : Style) {name : String} (hdotless : '.' ∉ name.toList)
    (hbare : Text.splitAlias? name = none) : s.table name = s.prefixed name := by
  rw [table_of_bare s hbare, bareTable, Text.cutLast?, Chars.cutLast?_of_notMem hdotless]
  rfl

/-- A qualifier without a table prefix and without an alias is quoted as any other part. -/
lemma table_of_mem_pieces {part : String} (hempty : s.tablePrefix = "")
    (hsplit : Text.splitAlias? part = none) (hpart : part ∈ Text.pieces '.' name) :
    s.table part = s.segment part := by
  rw [s.table_of_dotless (Text.notMem_of_mem_pieces hpart) hsplit, prefixed, hempty,
    String.empty_append]

/-- **A column name is quoted as any other name.** -/
lemma dotted_eq_identifier (hempty : s.tablePrefix = "") (hsplit : Text.splitAlias? name = none) :
    s.dotted name = s.quoting.identifier name := by
  have hname := Text.intercalate_pieces name
  have hmem : ∀ part ∈ Text.pieces '.' name, Text.splitAlias? part = none →
      s.table part = s.segment part := fun part hpart hpartSplit =>
    table_of_mem_pieces hempty hpartSplit hpart
  rw [dotted, Quoting.identifier]
  rcases hpieces : Text.pieces '.' name with _ | ⟨first, _ | ⟨second, rest⟩⟩
  · rfl
  · rfl
  · rw [hpieces] at hname hmem
    -- What has no alias has none in its first part.
    rw [String.intercalate_cons_cons, String.append_assoc] at hname
    rw [← hname] at hsplit
    have hfirst := hmem first List.mem_cons_self (Text.splitAlias?_append hsplit)
    rw [qualified, hfirst]
    rfl

/-- Without a prefix, an alias or an arrow, nothing is left of wrapping a column but its quotes. -/
lemma column_eq_identifier (hempty : s.tablePrefix = "") (hsplit : Text.splitAlias? name = none)
    (hflat : Text.Flat name) : s.column name = s.quoting.identifier name := by
  obtain ⟨piece, hpiece⟩ := hflat.arrowPieces_eq
  rw [column_of_bare s hsplit, bareColumn, hpiece, dotted_eq_identifier hempty hsplit]

end Style

/-! ## The statement -/

/-- **Quoted names are read back.**  Read with its own quotes, a quoted name gives its parts between
the dots, to the end of the text; so different names are quoted differently.  No part closes its
quotes early: with any text behind it that does not begin with the closing quote, the part is read
and that text is left.  And where tables get no prefix, a column without an alias and without arrows
is written as its quoted name. -/
theorem quoted_names_read_back {q : Quoting} {opening closing : Char}
    (h : q.Marks opening closing) :
    (∀ name, Text.readName? opening closing (q.identifier name)
      = some (Text.pieces '.' name)) ∧
    Function.Injective q.identifier ∧
    (∀ part rest : String, rest.toList.head? ≠ some closing →
      Text.readPart? opening closing (q.segment part ++ rest) = some (part, rest)) ∧
    ∀ s : Style, s.quoting = q → s.tablePrefix = "" → ∀ name,
      Text.splitAlias? name = none → Text.Flat name → s.column name = q.identifier name := by
  refine ⟨h.readName?_identifier, h.identifier_injective, fun part rest hrest => ?_, ?_⟩
  · rw [Text.readPart?, String.toList_append, h.readPart?_segment part hrest, Option.map_some,
      String.ofList_toList, String.ofList_toList]
  · rintro s rfl hempty name hsplit hflat
    exact Style.column_eq_identifier hempty hsplit hflat

/-- Closing brackets in any number, at the end of a part too, dots side by side and a star. -/
theorem quoted_names_read_back_brackets :
    Quoting.bracket.Marks '[' ']' ∧
    Quoting.bracket.identifier "a]].]..*" = "[a]]]]].[]]].[].*" ∧
    Text.readName? '[' ']' "[a]]]]].[]]].[].*" = some ["a]]", "]", "", "*"] ∧
    Text.readPart? '[' ']' "[a]]]]].[]]]" = some ("a]]", ".[]]]") ∧
    (Style.plain .sqlServer).column "a]].]..*" = "[a]]]]].[]]].[].*" := by
  have h : Quoting.bracket.Marks '[' ']' := .bracket
  obtain ⟨hname, -, hpart, hcolumn⟩ := quoted_names_read_back h
  have hquoted : Quoting.bracket.identifier "a]].]..*" = "[a]]]]].[]]].[].*" := by
    decide +kernel
  have hsegment : Quoting.bracket.segment "a]]" = "[a]]]]]" := by decide +kernel
  refine ⟨h, hquoted, ?_, ?_, ?_⟩
  · rw [← hquoted, hname]
    decide +kernel
  · have hrest := hpart "a]]" ".[]]]" (by decide)
    rwa [hsegment] at hrest
  · rw [hcolumn (.plain .sqlServer) rfl rfl "a]].]..*" (by decide +kernel) (by decide +kernel),
      hquoted]

end SqlWeave
