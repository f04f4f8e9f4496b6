import SqlWeave.Proofs.Placeholder.Interpolation

/-!
# Texts with their values

A statement is put together by appending texts, and its values by appending lists.  A text carries
values if it closes every literal that it opens and has as many placeholders as there are values;
then the two sides can be put together independently.

* `Text.Carries` — **a text with its values**.
* `Text.Carries.append`, `Text.Carries.trim` — such texts are closed under what a statement is put
  together by.
* `Text.Carries.interpolate_append` — each value goes into the part that it came with.
* `Marking` — texts for values that show where the values went.
-/

namespace SqlWeave

/-- A text for every value, without blanks, quotes and question marks. -/
def Marking (quote : Value → String) : Prop :=
  ∀ v, Chars.IsMark (quote v).toList

/-- A single letter marks where values went. -/
lemma marking_letter : Marking fun _ => "v" := by
  intro v
  show Chars.IsMark "v".toList
  exact ⟨by decide, by decide, List.forall_mem_singleton.mpr (by decide)⟩

/-- What is written for values are marks. -/
lemma Marking.literals {quote : Value → String} (h : Marking quote) (values : List Value) :
    ∀ l ∈ values.map (fun v => (quote v).toList), Chars.IsMark l := by
  intro l hl
  obtain ⟨v, -, rfl⟩ := List.mem_map.mp hl
  exact h v

namespace Text

/-- All literals are closed, and there are as many placeholders as values. -/
structure Carries (sql : String) (values : List Value) : Prop where
  closed : sql.toList.count '\'' % 2 = 0
  counted : placeholders sql = values.length

instance (sql : String) (values : List Value) : Decidable (Carries sql values) :=
  decidable_of_iff (sql.toList.count '\'' % 2 = 0 ∧ placeholders sql = values.length)
    ⟨fun h => ⟨h.1, h.2⟩, fun h => ⟨h.closed, h.counted⟩⟩

variable {s t : String} {vs ws : List Value} {quote : Value → String}

/-- A text that carries values leaves a scan outside of literals. -/
lemma Carries.quotedAfter (h : Carries s vs) : Chars.quotedAfter false s.toList = false := by
  rw [Chars.quotedAfter_eq, if_pos h.closed]

/-- And conversely: a scan ends outside if the quotes come in pairs. -/
lemma closed_of_quotedAfter (h : Chars.quotedAfter false s.toList = false) :
    s.toList.count '\'' % 2 = 0 := by
  rw [Chars.quotedAfter_eq] at h
  by_contra hodd
  rw [if_neg hodd] at h
  cases h

/-! ## Small texts -/

lemma Neat.carries (h : Neat s) : Carries s [] where
  closed := by rw [Chars.Neat.count_quote h]
  counted := Chars.Neat.placeholdersFrom h false

/-- A literal whose body has no marks. -/
lemma carries_literal (h : Neat s) : Carries ("'" ++ s ++ "'") [] where
  closed := by
    rw [String.toList_append, String.toList_append, List.count_append, List.count_append,
      Chars.Neat.count_quote h]
    rfl
  counted := by
    rw [placeholders, String.toList_append, String.toList_append, Chars.placeholdersFrom_append,
      Chars.placeholdersFrom_append, Chars.Neat.placeholdersFrom h]
    rw [Chars.quotedAfter_append, Chars.quotedAfter_of_neat h]
    rfl

/-- An operand carries its value. -/
lemma carries_sql_value (v : Value) : Carries (Param.value v).sql [v] := by
  show Carries "?" [v]
  exact ⟨by decide, rfl⟩

/-! ## Two texts -/

/-- **Two texts that carry values, one behind the other**: since the first closes its literals, a
scan of the second begins outside. -/
lemma Carries.append (hs : Carries s vs) (ht : Carries t ws) : Carries (s ++ t) (vs ++ ws) where
  closed := by
    rw [String.toList_append, List.count_append]
    have h₁ := hs.closed
    have h₂ := ht.closed
    omega
  counted := by
    rw [placeholders, String.toList_append, Chars.placeholdersFrom_append, hs.quotedAfter,
      List.length_append]
    exact congrArg₂ (· + ·) hs.counted ht.counted

/-- Each value goes into the part that it came with. -/
lemma Carries.interpolate_append (hs : Carries s vs) (quote : Value → String) (t : String)
    (ws : List Value) : interpolate quote (s ++ t) (vs ++ ws)
      = interpolate quote s vs ++ interpolate quote t ws := by
  have hlength : (vs.map fun v => (quote v).toList).length
      = Chars.placeholdersFrom false s.toList := by
    rw [List.length_map]
    exact hs.counted.symm
  rw [interpolate, String.toList_append, List.map_append, Chars.interpolateFrom_append hlength,
    hs.quotedAfter, String.ofList_append, interpolate, interpolate]

/-- Without values nothing is written in. -/
lemma interpolate_nil (quote : Value → String) (s : String) : interpolate quote s [] = s := by
  rw [interpolate, List.map_nil, Chars.interpolateFrom_nil, String.ofList_toList]

/-! ## Trimming -/

/-- Blanks at the ends have no placeholder. -/
lemma Carries.trim (h : Carries s vs) : Carries (trim s) vs := by
  obtain ⟨a, b, hs, ha, hb⟩ := Chars.exists_trim s.toList
  have neat_of_blank : ∀ r : List Char, (∀ c ∈ r, isBlank c = true) → Chars.Neat r :=
    fun r hr c hc => Chars.neat_of_isBlank (hr c hc)
  have hna := neat_of_blank a ha
  have hnb := neat_of_blank b hb
  refine ⟨?_, ?_⟩
  · have hclosed := h.closed
    rw [hs, List.count_append, List.count_append, hna.count_quote, hnb.count_quote] at hclosed
    rwa [toList_trim, ← Nat.zero_add (List.count _ _)]
  · have hcounted := h.counted
    rw [placeholders, hs, Chars.placeholdersFrom_append, Chars.placeholdersFrom_append,
      hna.placeholdersFrom, hnb.placeholdersFrom, Chars.quotedAfter_of_neat hna] at hcounted
    rwa [placeholders, toList_trim, ← Nat.zero_add (Chars.placeholdersFrom _ _)]

/-- Values may be written in before or after a trim. -/
lemma interpolate_trim (hquote : Marking quote) (s : String) (vs : List Value) :
    interpolate quote (Text.trim s) vs = Text.trim (interpolate quote s vs) := by
  rw [interpolate, toList_trim, ← Chars.trim_interpolateFrom (hquote.literals vs), Text.trim,
    interpolate, String.toList_ofList]

/-- Writing values in makes no text empty. -/
lemma interpolate_eq_empty (hquote : Marking quote) (s : String) (vs : List Value) :
    interpolate quote s vs = "" ↔ s = "" := by
  rw [interpolate, ← String.toList_inj, String.toList_ofList, String.toList_empty,
    Chars.interpolateFrom_eq_nil (hquote.literals vs), ← String.toList_inj, String.toList_empty]

/-- With its values written in, a text carries none. -/
lemma Carries.interpolate (h : Carries s vs) (hquote : Marking quote) :
    Carries (interpolate quote s vs) [] := by
  have hlength : (vs.map fun v => (quote v).toList).length
      = Chars.placeholdersFrom false s.toList := by
    rw [List.length_map]
    exact h.counted.symm
  obtain ⟨hclosed, hcounted⟩ := Chars.scan_interpolateFrom (hquote.literals vs) hlength
  refine ⟨closed_of_quotedAfter ?_, ?_⟩
  · rw [Text.interpolate, String.toList_ofList, hclosed, h.quotedAfter]
  · rw [placeholders, Text.interpolate, String.toList_ofList, hcounted, List.length_nil]

end Text

end SqlWeave
