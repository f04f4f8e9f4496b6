import SqlWeave.Proofs.Reading.Names
import SqlWeave.Value.Literal

/-!
# Places inside of a document, written and read

One dialect can assign to a place inside of a document.  The name of the column is taken apart at
its arrows once where the place is read and once where it is assigned to, and both times the text
before the first arrow is the document and the steps behind it are the path.  So an assignment
changes what a column of the same name reads.

* `Chars.cut?_arrow` — **the first arrow** of a text and the pieces behind it.
* `Param.content` — **the specification**: how the new content is written and what it binds.
* `document_written_where_read` — the statement.
-/

namespace SqlWeave

/-! ## The first arrow -/

namespace Chars

lemma hasArrow_of_infix {s : List Char} (h : ['-', '>'] <:+: s) : hasArrow s = true := by
  obtain ⟨before, behind, rfl⟩ := h
  induction before with
  | nil => rfl
  | cons c before ih => exact hasArrow_cons ih c

/-- A text with an arrow is cut at the first one, and its pieces are those of what follows behind
the text before it. -/
lemma cut?_arrow {s : List Char} (h : hasArrow s = true) :
    ∃ before behind, cut? ['-', '>'] s = some (before, behind) ∧
      s = before ++ '-' :: '>' :: behind ∧ hasArrow before = false ∧
      arrowPieces s = before :: arrowPieces behind := by
  fun_induction hasArrow s with
  | case1 r => exact ⟨[], r, rfl, rfl, rfl, rfl⟩
  | case2 c r hfirst ih =>
      obtain ⟨before, behind, hcut, rfl, hflat, hpieces⟩ := ih h
      have hnot : ¬['-', '>'].isPrefixOf (c :: (before ++ '-' :: '>' :: behind)) := by
        rw [List.isPrefixOf_iff_prefix]
        rintro ⟨t, ht⟩
        obtain ⟨hc, hr⟩ := List.cons.inj ht
        exact hfirst t hc.symm hr.symm
      refine ⟨c :: before, behind, ?_, rfl, ?_, ?_⟩
      · rw [cut?, if_neg hnot, hcut, Option.map_some]
      · rw [hasArrow]
        · exact hflat
        · rintro d rfl rfl
          exact hfirst (d ++ '-' :: '>' :: behind) rfl rfl
      · rw [arrowPieces, hpieces]
        · rfl
        · exact hfirst
  | case3 => cases h

end Chars

namespace Text

lemma cut?_arrow {s : String} (h : "->".toList <:+: s.toList) :
    ∃ before behind, cut? "->" s = some (before, behind) ∧ s = before ++ "->" ++ behind ∧
      Flat before ∧ arrowPieces s = before :: arrowPieces behind := by
  obtain ⟨before, behind, hcut, hs, hflat, hpieces⟩ := Chars.cut?_arrow (Chars.hasArrow_of_infix h)
  refine ⟨String.ofList before, String.ofList behind, ?_, ?_, ?_, ?_⟩
  · exact congrArg _ hcut
  · rw [← String.toList_inj, hs]
    simp
  · rwa [Flat, hasArrow, String.toList_ofList]
  · rw [arrowPieces, hpieces, arrowPieces, String.toList_ofList, List.map_cons]

lemma arrowPieces_ne_nil (s : String) : arrowPieces s ≠ [] := by
  rw [arrowPieces, Ne, List.map_eq_nil_iff]
  exact Chars.arrowPieces_ne_nil _

end Text

/-! ## The new content -/

/-- Whether a value is a number. -/
def Value.isNumber : Value → Bool
  | .int _ | .uint _ | .float _ => true
  | _ => false

/-- How the new content of a place is written and what it binds.  A truth value and a number are
written as their literals and bind nothing; all other operands are as they are everywhere. -/
def Param.content : Param → String × List Value
  | .value (.bool b) => (toString b, [])
  | .value v => if v.isNumber then (v.literal, []) else ("?", [v])
  | .raw sql => (sql, [])

namespace Style

variable {s : Style}

lemma documentAssignment_eq (field : String) (path : List String) (operand : Param) :
    s.documentAssignment field path operand
      = (s.column field ++ " = json_set(" ++ s.column field ++ ", " ++ quotedPath path ++ ", "
        ++ operand.content.1 ++ ")", operand.content.2) := by
  rw [documentAssignment]
  cases operand with
  | raw sql => rfl
  | value v =>
      cases v with
      | bool b => cases b <;> rfl
      | _ => rfl

end Style

/-! ## The statement -/

/-- **A place inside of a document is written where it is read.**  A column with an arrow in its
name and without an alias has a text before its first arrow, which names the document, and steps
behind it.  As a column it is written as the document, an arrow and the path of the steps.  An
assignment to it has the same document and the same path: it sets the document to itself with new
content at the path, and binds the operand unless that is a truth value, a number or SQL text. -/
theorem document_written_where_read {s : Style} (hs : s.dialect = .mysql) {column : String}
    (harrow : "->".toList <:+: column.toList) (hbare : Text.splitAlias? column = none)
    (operand : Param) :
    ∃ before behind, Text.cut? "->" column = some (before, behind) ∧
      column = before ++ "->" ++ behind ∧
      let document := s.column before
      let place := Style.quotedPath (Text.arrowPieces behind)
      s.column column = document ++ "->" ++ place ∧
      s.assignment column operand
        = (document ++ " = json_set(" ++ document ++ ", " ++ place ++ ", " ++ operand.content.1
          ++ ")", operand.content.2) := by
  obtain ⟨before, behind, hcut, hcolumn, hflat, hpieces⟩ := Text.cut?_arrow harrow
  obtain ⟨step, path, hpath⟩ := List.exists_cons_of_ne_nil (Text.arrowPieces_ne_nil behind)
  have hbefore : Text.splitAlias? before = none := by
    rw [hcolumn, String.append_assoc] at hbare
    exact Text.splitAlias?_append hbare
  obtain ⟨piece, hpiece⟩ := hflat.arrowPieces_eq
  have hdocument : s.column before = s.dotted before := by
    rw [s.column_of_bare hbefore, Style.bareColumn, hpiece]
  refine ⟨before, behind, hcut, hcolumn, ?_, ?_⟩
  · rw [s.column_of_bare hbare, Style.bareColumn, hpieces, hpath]
    simp only [Style.jsonPlace?, hs, Option.getD_some, hdocument]
  · rw [Style.assignment, hpieces, hpath]
    simp only [hs, Style.documentAssignment_eq]

/-- A document in a table with a prefix, and a path with an empty step and a quote in a key. -/
theorem document_written_where_read_empty_step :
    let s : Style := ⟨.mysql, some .ansi, "p_"⟩
    let column := "t.meta->it's->->b"
    s.dialect = .mysql ∧ "->".toList <:+: column.toList ∧ Text.splitAlias? column = none ∧
    s.column column = "\"p_t\".\"meta\"->'$.\"it''s\".\"\".\"b\"'" ∧
    (s.assignment column (.value (.bool true))).1
      = "\"p_t\".\"meta\" = json_set(\"p_t\".\"meta\", '$.\"it''s\".\"\".\"b\"', true)" := by
  intro s column
  have harrow : "->".toList <:+: column.toList := by decide +kernel
  have hbare : Text.splitAlias? column = none := by decide +kernel
  have hcut : Text.cut? "->" column = some ("t.meta", "it's->->b") := by decide +kernel
  obtain ⟨before, behind, hcut', -, hread, hwrite⟩ :=
    document_written_where_read (s := s) rfl harrow hbare (.value (.bool true))
  obtain ⟨rfl, rfl⟩ := Prod.mk.inj (Option.some.inj (hcut.symm.trans hcut'))
  refine ⟨rfl, harrow, hbare, hread.trans ?_, (congrArg Prod.fst hwrite).trans ?_⟩
  · decide +kernel
  · decide +kernel

end SqlWeave
