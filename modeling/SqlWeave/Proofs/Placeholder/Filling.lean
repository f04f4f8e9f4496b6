import SqlWeave.Proofs.Placeholder.Interpolation

/-!
# Filling placeholders in

Which question marks of a text are placeholders can be said without a scan: those with an even
number of single quotes before them.  They split the text into parts, and writing values in puts
these parts together again with the values in between.

* `Text.placeholderPlaces` — **where the placeholders of a text are**.
* `Text.SplitsAtPlaceholders` — the parts of a text between its placeholders.
* `Chars.interpolateFrom_eq_weave` — a scan weaves the literals in between the parts.
* `interpolation_fills_placeholders` — the statement.
-/

namespace SqlWeave

/-! ## Parts of a text -/

/-- Where the separators stand when one character stands between each two parts of these lengths. -/
def joints : List ℕ → List ℕ
  | [] | [_] => []
  | length :: next :: lengths => length :: (joints (next :: lengths)).map (· + (length + 1))

namespace Text

/-- Where the question marks are that have an even number of single quotes before them. -/
def placeholderPlaces (sql : String) : List ℕ :=
  (List.range sql.length).filter fun i =>
    sql.toList[i]? = some '?' ∧ (sql.toList.take i).count '\'' % 2 = 0

/-- **The parts of a text between its placeholders**: with question marks between them they are the
text, and these question marks are its placeholders. -/
structure SplitsAtPlaceholders (sql : String) (parts : List String) : Prop where
  ne_nil : parts ≠ []
  text : "?".intercalate parts = sql
  places : joints (parts.map String.length) = placeholderPlaces sql

/-- The text in place of the placeholder with this number: the quoted value with the same number,
or the question mark where the values do not reach so far. -/
def fill (quote : Value → String) (values : List Value) (i : ℕ) : String :=
  (values[i]?.map quote).getD "?"

/-- Parts with texts between them: the first text stands between the first two parts, and so on. -/
def weave (parts texts : List String) : String :=
  String.join (List.zipWith (· ++ ·) parts (texts ++ [""]))

end Text

namespace Chars

/-- **Parts are known** by the text that they are put together to and the places where they are. -/
lemma eq_of_joints {parts parts' : List (List Char)} (h : parts ≠ []) (h' : parts' ≠ [])
    (htext : ['?'].intercalate parts = ['?'].intercalate parts')
    (hjoints : joints (parts.map List.length) = joints (parts'.map List.length)) :
    parts = parts' := by
  induction parts generalizing parts' with
  | nil => exact absurd rfl h
  | cons part rest ih =>
      obtain ⟨part', rest', rfl⟩ := List.exists_cons_of_ne_nil h'
      match rest, rest' with
      | [], [] => simpa using htext
      | [], _ :: _ | _ :: _, [] => simp [joints] at hjoints
      | next :: rest, next' :: rest' =>
          obtain ⟨hlength, hlater⟩ := List.cons.inj hjoints
          rw [hlength, List.map_inj_right fun _ _ => Nat.add_right_cancel] at hlater
          simp only [List.intercalate_cons_cons, List.append_assoc] at htext
          obtain ⟨rfl, hrest⟩ := List.append_inj htext hlength
          rw [ih (List.cons_ne_nil _ _) (List.cons_ne_nil _ _) (List.append_cancel_left hrest) hlater]

/-! ## One character

A character is a placeholder or it is kept; kept, a quote moves the border of a literal. -/

/-- A character is a placeholder or it is kept. -/
lemma isPlaceholder_or_kept (quoted : Bool) (c : Char) :
    (c = '?' ∧ quoted = false) ∨ (c = '?' → quoted = true) := by
  cases quoted with
  | false => exact (em (c = '?')).imp (fun h => ⟨h, rfl⟩) fun h hc => absurd hc h
  | true => exact Or.inr fun _ => rfl

/-- A character that is kept leaves the count to the rest, on the side on which it leaves the
scan. -/
lemma placeholdersFrom_kept {quoted : Bool} {c : Char} (h : c = '?' → quoted = true)
    (r : List Char) :
    placeholdersFrom quoted (c :: r) = placeholdersFrom (quotedAfter quoted [c]) r := by
  by_cases hquote : c = '\''
  · subst hquote
    exact placeholdersFrom_quote quoted r
  · rw [placeholdersFrom_other hquote h, quotedAfter_other _ hquote, quotedAfter_nil]

/-- A character that is kept is written again. -/
lemma interpolateFrom_kept {quoted : Bool} {c : Char} (h : c = '?' → quoted = true)
    (literals : List (List Char)) (r : List Char) :
    interpolateFrom quoted literals (c :: r)
      = c :: interpolateFrom (quotedAfter quoted [c]) literals r := by
  by_cases hquote : c = '\''
  · subst hquote
    exact interpolateFrom_quote quoted literals r
  · rw [interpolateFrom_other hquote h, quotedAfter_other _ hquote, quotedAfter_nil]

/-! ## The places -/

/-- The places of the placeholders, where `quoted` says whether the text begins inside a literal. -/
def placesFrom (quoted : Bool) (s : List Char) : List ℕ :=
  (List.range s.length).filter fun i => s[i]? = some '?' ∧ quotedAfter quoted (s.take i) = false

/-- Inside of a literal is behind an odd number of quotes. -/
lemma placesFrom_false (s : List Char) : placesFrom false s
    = (List.range s.length).filter fun i => s[i]? = some '?' ∧ (s.take i).count '\'' % 2 = 0 := by
  have hparity : ∀ t : List Char, quotedAfter false t = false ↔ t.count '\'' % 2 = 0 := by
    intro t
    rw [quotedAfter_eq]
    split_ifs with h <;> simp [h]
  simp only [placesFrom, hparity]

/-- The places of the rest are one further on. -/
lemma placesFrom_cons (quoted : Bool) (c : Char) (r : List Char) :
    placesFrom quoted (c :: r) = (if c = '?' ∧ quoted = false then [0] else [])
      ++ (placesFrom (quotedAfter quoted [c]) r).map (· + 1) := by
  have hlater : ∀ i, quotedAfter quoted ((c :: r).take (i + 1))
      = quotedAfter (quotedAfter quoted [c]) (r.take i) := fun _ => rfl
  rw [placesFrom, placesFrom, List.length_cons, List.range_succ_eq_map, List.filter_cons,
    List.filter_map]
  simp only [Function.comp_def, Nat.succ_eq_add_one, List.getElem?_cons_succ, hlater]
  split_ifs <;> simp_all

/-! ## The parts between placeholders -/

/-- The parts between the placeholders, where `quoted` says whether the text begins inside a
literal. -/
def placeholderParts (quoted : Bool) : List Char → List (List Char)
  | [] => [[]]
  | c :: r =>
    if c = '?' ∧ quoted = false then [] :: placeholderParts false r
    else consFirst c (placeholderParts (quotedAfter quoted [c]) r)

/-- A placeholder ends a part, which begins behind it anew. -/
lemma placeholderParts_mark (r : List Char) :
    placeholderParts false ('?' :: r) = [] :: placeholderParts false r := by
  simp [placeholderParts]

/-- A character that is kept belongs to the part that follows. -/
lemma placeholderParts_kept {quoted : Bool} {c : Char} (h : c = '?' → quoted = true)
    (r : List Char) : placeholderParts quoted (c :: r)
      = consFirst c (placeholderParts (quotedAfter quoted [c]) r) := by
  rw [placeholderParts, if_neg]
  rintro ⟨hc, hq⟩
  rw [h hc] at hq
  cases hq

/-- There is always a first part. -/
lemma exists_placeholderParts (quoted : Bool) (s : List Char) :
    ∃ part parts, placeholderParts quoted s = part :: parts := by
  cases s with
  | nil => exact ⟨[], [], rfl⟩
  | cons c r =>
      rw [placeholderParts]
      split_ifs
      · exact ⟨_, _, rfl⟩
      · cases placeholderParts (quotedAfter quoted [c]) r <;> exact ⟨_, _, rfl⟩

/-- A character in front of the first part moves every joint by one. -/
lemma joints_consFirst (c : Char) (part : List Char) (parts : List (List Char)) :
    joints ((consFirst c (part :: parts)).map List.length)
      = (joints ((part :: parts).map List.length)).map (· + 1) := by
  cases parts with
  | nil => rfl
  | cons next parts => simp [consFirst, joints, Nat.add_assoc]

/-- A character in front of the first part is one in front of the whole. -/
lemma intercalate_consFirst (c : Char) (part : List Char) (parts : List (List Char)) :
    ['?'].intercalate (consFirst c (part :: parts)) = c :: ['?'].intercalate (part :: parts) := by
  cases parts <;> simp [consFirst]

/-- **These are the parts**: put together they are the text, and their joints are its
placeholders. -/
lemma placeholderParts_spec (quoted : Bool) (s : List Char) :
    ['?'].intercalate (placeholderParts quoted s) = s ∧
      joints ((placeholderParts quoted s).map List.length) = placesFrom quoted s := by
  induction s generalizing quoted with
  | nil => exact ⟨rfl, rfl⟩
  | cons c r ih =>
      rw [placesFrom_cons]
      rcases isPlaceholder_or_kept quoted c with ⟨rfl, rfl⟩ | hkept
      · obtain ⟨part, parts, hparts⟩ := exists_placeholderParts false r
        obtain ⟨htext, hjoints⟩ := ih false
        rw [placeholderParts_mark, if_pos ⟨rfl, rfl⟩, quotedAfter_other _ (by decide),
          quotedAfter_nil, ← hjoints]
        rw [hparts] at htext ⊢
        rw [List.intercalate_cons_cons, htext]
        exact ⟨rfl, rfl⟩
      · obtain ⟨part, parts, hparts⟩ := exists_placeholderParts (quotedAfter quoted [c]) r
        obtain ⟨htext, hjoints⟩ := ih (quotedAfter quoted [c])
        rw [placeholderParts_kept hkept, if_neg (fun h => by simp [hkept h.1] at h), ← hjoints]
        rw [hparts] at htext ⊢
        refine ⟨?_, joints_consFirst c part parts⟩
        rw [intercalate_consFirst, htext]

/-- There is one part more than there are placeholders. -/
lemma length_placeholderParts (quoted : Bool) (s : List Char) :
    (placeholderParts quoted s).length = placeholdersFrom quoted s + 1 := by
  induction s generalizing quoted with
  | nil => rfl
  | cons c r ih =>
      rcases isPlaceholder_or_kept quoted c with ⟨rfl, rfl⟩ | hkept
      · rw [placeholderParts_mark, placeholdersFrom_mark, List.length_cons, ih]
      · obtain ⟨part, parts, hparts⟩ := exists_placeholderParts (quotedAfter quoted [c]) r
        have hlength := ih (quotedAfter quoted [c])
        rw [placeholderParts_kept hkept, placeholdersFrom_kept hkept, ← hlength, hparts]
        rfl

/-! ## Weaving -/

/-- The text in place of the placeholder with this number: the literal with the same number, or the
question mark where the literals do not reach so far. -/
def fill (literals : List (List Char)) (i : ℕ) : List Char :=
  literals[i]?.getD ['?']

/-- Parts with texts between them. -/
def weave (parts texts : List (List Char)) : List Char :=
  (List.zipWith (· ++ ·) parts (texts ++ [[]])).flatten

/-- A part and the text behind it, and then the rest. -/
lemma weave_cons (part text : List Char) (parts texts : List (List Char)) :
    weave (part :: parts) (text :: texts) = part ++ (text ++ weave parts texts) := by
  simp [weave]

/-- A character in front of the first part is one in front of what is woven. -/
lemma weave_consFirst (c : Char) (part : List Char) (parts texts : List (List Char)) :
    weave (consFirst c (part :: parts)) texts = c :: weave (part :: parts) texts := by
  cases texts <;> rfl

/-- The first literal goes to the first placeholder, and the others to those behind it. -/
lemma map_fill_range_succ (literals : List (List Char)) (n : ℕ) :
    (List.range (n + 1)).map (fill literals)
      = literals.headD ['?'] :: (List.range n).map (fill literals.tail) := by
  have htail : fill literals ∘ Nat.succ = fill literals.tail := by
    funext i
    rw [Function.comp, fill, fill, List.getElem?_tail]
  rw [List.range_succ_eq_map, List.map_cons, List.map_map, htail, List.headD_eq_head?_getD,
    List.head?_eq_getElem?]
  rfl

/-- **A scan weaves the literals in between the parts.**  What a literal consists of plays no role:
the scan goes on behind it with the next character of the text. -/
theorem interpolateFrom_eq_weave (quoted : Bool) (literals : List (List Char)) (s : List Char) :
    interpolateFrom quoted literals s = weave (placeholderParts quoted s)
      ((List.range (placeholdersFrom quoted s)).map (fill literals)) := by
  induction s generalizing quoted literals with
  | nil => rfl
  | cons c r ih =>
      rcases isPlaceholder_or_kept quoted c with ⟨rfl, rfl⟩ | hkept
      · rw [interpolateFrom_mark, placeholderParts_mark, placeholdersFrom_mark,
          map_fill_range_succ, weave_cons, ih, List.nil_append]
      · obtain ⟨part, parts, hparts⟩ := exists_placeholderParts (quotedAfter quoted [c]) r
        rw [interpolateFrom_kept hkept, placeholderParts_kept hkept, placeholdersFrom_kept hkept,
          ih, hparts, weave_consFirst]

end Chars

namespace Text

/-- Strings are woven as their characters are. -/
lemma toList_weave (parts texts : List String) : (weave parts texts).toList
    = Chars.weave (parts.map String.toList) (texts.map String.toList) := by
  have htexts : texts.map String.toList ++ [[]] = (texts ++ [""]).map String.toList := by simp
  rw [weave, Chars.weave, String.toList_join, List.flatMap_def, List.map_zipWith, htexts,
    List.zipWith_map]
  simp only [String.toList_append]

lemma toList_fill (quote : Value → String) (values : List Value) (i : ℕ) :
    (fill quote values i).toList = Chars.fill (values.map fun v => (quote v).toList) i := by
  rw [fill, Chars.fill, List.getElem?_map]
  cases values[i]? <;> simp

/-- The parts of a text between its placeholders, by a scan. -/
def placeholderParts (sql : String) : List String :=
  (Chars.placeholderParts false sql.toList).map String.ofList

/-- The parts of a string are the parts of its characters. -/
lemma map_toList_placeholderParts (sql : String) :
    (placeholderParts sql).map String.toList = Chars.placeholderParts false sql.toList := by
  simp [placeholderParts, Function.comp_def]

/-- Whether a string splits at its placeholders is said of its characters, where the scan works. -/
lemma splitsAtPlaceholders_iff_chars {sql : String} {parts : List String} :
    SplitsAtPlaceholders sql parts ↔ parts.map String.toList ≠ [] ∧
      ['?'].intercalate (parts.map String.toList) = sql.toList ∧
      joints ((parts.map String.toList).map List.length) = Chars.placesFrom false sql.toList := by
  have hlengths : (parts.map String.toList).map List.length = parts.map String.length := by
    simp [Function.comp_def, String.length_toList]
  have htext : ['?'].intercalate (parts.map String.toList) = sql.toList
      ↔ "?".intercalate parts = sql := by
    rw [← String.toList_inj, String.toList_intercalate]
    rfl
  rw [hlengths, htext, Chars.placesFrom_false, String.length_toList, Ne, List.map_eq_nil_iff]
  exact ⟨fun h => ⟨h.ne_nil, h.text, h.places⟩, fun ⟨hne, htext, hplaces⟩ => ⟨hne, htext, hplaces⟩⟩

/-- **A text has one list of parts.** -/
lemma splitsAtPlaceholders_iff {sql : String} {parts : List String} :
    SplitsAtPlaceholders sql parts ↔ parts = placeholderParts sql := by
  obtain ⟨htext, hjoints⟩ := Chars.placeholderParts_spec false sql.toList
  obtain ⟨part, later, hparts⟩ := Chars.exists_placeholderParts false sql.toList
  have hne : Chars.placeholderParts false sql.toList ≠ [] := hparts ▸ List.cons_ne_nil part later
  rw [splitsAtPlaceholders_iff_chars]
  constructor
  · rintro ⟨hother, hotherText, hotherJoints⟩
    have hsame := Chars.eq_of_joints hother hne (hotherText.trans htext.symm)
      (hotherJoints.trans hjoints.symm)
    rw [placeholderParts, ← hsame]
    simp [Function.comp_def]
  · rintro rfl
    rw [map_toList_placeholderParts]
    exact ⟨hne, htext, hjoints⟩

end Text

/-! ## The statement -/

/-- **Writing values in fills the placeholders and changes nothing else.**  The placeholders split
a text into parts in one way only; they are as many as are counted.  With values written in, the text
is these parts with the quoted values between them in their order, and with question marks where the
values do not reach so far.  So whatever `quote` writes is not read again, and values beyond the
placeholders are left out. -/
theorem interpolation_fills_placeholders (quote : Value → String) (sql : String)
    (values : List Value) :
    let count := Text.placeholders sql
    ∃ parts : List String,
      (∀ other, Text.SplitsAtPlaceholders sql other ↔ other = parts) ∧
      parts.length = count + 1 ∧
      Text.interpolate quote sql values
        = Text.weave parts ((List.range count).map (Text.fill quote values)) ∧
      Text.interpolate quote sql values = Text.interpolate quote sql (values.take count) := by
  intro count
  have hweave : ∀ given : List Value, Text.interpolate quote sql given
      = Text.weave (Text.placeholderParts sql)
        ((List.range count).map (Text.fill quote given)) := by
    intro given
    rw [← String.toList_inj, Text.toList_weave, Text.map_toList_placeholderParts, List.map_map,
      Text.interpolate, String.toList_ofList, Chars.interpolateFrom_eq_weave]
    exact congrArg _ (List.map_congr_left fun i _ => (Text.toList_fill quote given i).symm)
  refine ⟨Text.placeholderParts sql, fun other => Text.splitsAtPlaceholders_iff, ?_,
    hweave values, ?_⟩
  · rw [Text.placeholderParts, List.length_map, Chars.length_placeholderParts]
    rfl
  · rw [hweave, hweave]
    refine congrArg _ (List.map_congr_left fun i hi => ?_)
    rw [Text.fill, Text.fill, List.getElem?_take_of_lt (List.mem_range.mp hi)]

/-- Quoted values with quotes and question marks of their own, in a text whose last literal is not
closed. -/
example : Text.interpolate (fun v => v.literal ++ "'?") "? '?' ?? ' ?" [.null, .bool true]
    = "NULL'? '?' 1'?? ' ?" := by
  decide +kernel

end SqlWeave
