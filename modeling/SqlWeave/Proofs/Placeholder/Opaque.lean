import SqlWeave.Proofs.Placeholder.Carries
import SqlWeave.Proofs.Reading.Quoted

/-!
# Tokens that a scan passes over

A scan for placeholders knows single quotes and nothing else: neither the quotes around names nor
the backslashes of an escaped text.  So what a quoted token is to a scan does not depend on how it
is quoted, but only on what is inside of it.

* `Text.Opaque` — **the property**: a token that neither is nor hides a placeholder, wherever it
  stands.
* `Text.opaque_iff_carries` — it is that of a text that carries no values.
* `Chars.ScansAlike` — two texts that a scan takes for the same; writing quotes twice and escaping
  give such texts.
* `quoted_tokens_opaque_iff` — **which quoted names and which literals are opaque**.
* `quoted_tokens_disclose` — names and literals that are not.
-/

namespace SqlWeave

namespace Text

/-- A token that a scan passes over: behind a text with all literals closed it is no placeholder
itself, it stays as it is, and the text behind it has its own placeholders and gets the values that
are left. -/
structure Opaque (t : String) : Prop where
  counted : ∀ a b : String, a.toList.count '\'' % 2 = 0 →
    placeholders (a ++ t ++ b) = placeholders a + placeholders b
  unchanged : ∀ (quote : Value → String) (values : List Value) (a b : String),
    a.toList.count '\'' % 2 = 0 → interpolate quote (a ++ t ++ b) values
      = interpolate quote a values ++ t ++ interpolate quote b (values.drop (placeholders a))

end Text

/-! ## What a scan makes of a token -/

namespace Chars

/-- Where there is no placeholder, nothing changes. -/
lemma interpolateFrom_of_none {quoted : Bool} {s : List Char} (h : placeholdersFrom quoted s = 0)
    (literals : List (List Char)) : interpolateFrom quoted literals s = s := by
  have hlength : ([] : List (List Char)).length = placeholdersFrom quoted s := h.symm
  have happend := interpolateFrom_append hlength [] literals
  rwa [List.append_nil, List.nil_append, interpolateFrom_nil, interpolateFrom,
    List.append_nil] at happend

end Chars

namespace Text

variable {t : String}

/-- A text without values ends outside of literals and has no placeholder outside of them. -/
lemma carries_nil_iff : Carries t [] ↔ Chars.quotedAfter false t.toList = false
    ∧ Chars.placeholdersFrom false t.toList = 0 :=
  ⟨fun h => ⟨h.quotedAfter, h.counted⟩, fun h => ⟨closed_of_quotedAfter h.1, h.2⟩⟩

/-- **A token is opaque exactly if it carries no values.** -/
lemma opaque_iff_carries : Opaque t ↔ Carries t [] := by
  rw [carries_nil_iff]
  constructor
  · intro h
    have hnone : Chars.placeholdersFrom false t.toList = 0 := by
      simpa [placeholders, Chars.placeholdersFrom] using h.counted "" "" rfl
    refine ⟨?_, hnone⟩
    -- A question mark behind an open literal would be hidden.
    have hmark : placeholders (t ++ "?") = 1 := by
      simpa [placeholders, Chars.placeholdersFrom] using h.counted "" "?" rfl
    rw [placeholders, String.toList_append, Chars.placeholdersFrom_append, hnone] at hmark
    cases hquoted : Chars.quotedAfter false t.toList with
    | false => rfl
    | true =>
        rw [hquoted] at hmark
        exact absurd hmark (by decide)
  · rintro ⟨hclosed, hnone⟩
    have hafter : ∀ a : String, a.toList.count '\'' % 2 = 0 →
        Chars.quotedAfter false a.toList = false := by
      intro a ha
      rw [Chars.quotedAfter_eq, if_pos ha]
    constructor
    · intro a b ha
      simp only [placeholders, String.toList_append, Chars.placeholdersFrom_append,
        Chars.quotedAfter_append, hafter a ha, hclosed, hnone, Nat.add_zero]
    · intro quote values a b ha
      simp only [interpolate, placeholders, String.toList_append, Chars.interpolateFrom_append_drop,
        Chars.quotedAfter_append, Chars.placeholdersFrom_append, hafter a ha, hclosed, hnone,
        Chars.interpolateFrom_of_none hnone, Nat.add_zero, String.ofList_append,
        String.ofList_toList, List.map_drop]

end Text

/-! ## Texts that a scan takes for the same -/

namespace Chars

/-- Two texts with as many placeholders, from inside or outside of a literal, that end in the
same state. -/
def ScansAlike (s t : List Char) : Prop :=
  ∀ quoted, placeholdersFrom quoted s = placeholdersFrom quoted t ∧
    quotedAfter quoted s = quotedAfter quoted t

/-- Two parts that are taken for the same, one behind the other. -/
lemma ScansAlike.append {s s' t t' : List Char} (h : ScansAlike s t) (h' : ScansAlike s' t') :
    ScansAlike (s ++ s') (t ++ t') := by
  intro quoted
  rw [placeholdersFrom_append, placeholdersFrom_append, quotedAfter_append, quotedAfter_append,
    (h quoted).1, (h quoted).2, (h' _).1, (h' _).2]
  exact ⟨rfl, rfl⟩

/-- Neat texts are all taken for the same: they are passed over. -/
lemma Neat.scansAlike {s t : List Char} (hs : Neat s) (ht : Neat t) : ScansAlike s t := by
  intro quoted
  rw [hs.placeholdersFrom, ht.placeholdersFrom, quotedAfter_of_neat hs, quotedAfter_of_neat ht]
  exact ⟨rfl, rfl⟩

/-- It is enough to compare character by character. -/
lemma scansAlike_flatMap {f : Char → List Char} (h : ∀ c, ScansAlike (f c) [c]) (s : List Char) :
    ScansAlike (s.flatMap f) s := by
  induction s with
  | nil => exact fun _ => ⟨rfl, rfl⟩
  | cons c r ih => exact (h c).append ih

/-! ### Escapes -/

/-- A backslash neither hides a single quote from a scan nor adds one. -/
lemma scansAlike_escape (s : List Char) : ScansAlike (escape s) s := by
  refine scansAlike_flatMap (fun c => ?_) s
  have hneat : ∀ {d e : Char}, (e ≠ '\'' ∧ e ≠ '?') → (d ≠ '\'' ∧ d ≠ '?') →
      ScansAlike ['\\', e] [d] := fun he hd =>
    Neat.scansAlike (by simp [he]) (by simp [hd])
  unfold escapeChar
  split_ifs with _ _ _ _ hquote <;> subst_vars
  · exact hneat (by decide) (by decide)
  · exact hneat (by decide) (by decide)
  · exact hneat (by decide) (by decide)
  · exact hneat (by decide) (by decide)
  · intro quoted
    cases quoted <;> decide
  · exact hneat (by decide) (by decide)
  · exact hneat (by decide) (by decide)
  · exact fun _ => ⟨rfl, rfl⟩

/-! ### Quotes around names -/

/-- Where neither the quote of a name nor its substitute is a mark, a scan does not notice that the
one is written for the other. -/
lemma scansAlike_replace {c : Char} {new : List Char} (hc : Neat [c]) (hnew : Neat new)
    (s : List Char) : ScansAlike (replace [c] new s) s := by
  rw [replace_singleton]
  refine scansAlike_flatMap (fun d => ?_) s
  split_ifs with h
  · subst h
    exact hnew.scansAlike hc
  · exact fun _ => ⟨rfl, rfl⟩

end Chars

/-! ## Names -/

namespace Quoting

/-- A quoting by neat quotes. -/
lemma carries_segment_iff {q : Quoting} {c : Char} (hspecial : q.special.toList = [c])
    (hc : Chars.Neat [c]) (hsubstitute : Text.Neat q.substitute) (hopening : Text.Neat q.opening)
    (hclosing : Text.Neat q.closing) (part : String) :
    Text.Carries (q.segment part) [] ↔ Text.Carries part [] := by
  rw [segment]
  split_ifs
  · rfl
  · have halike := Chars.scansAlike_replace hc hsubstitute part.toList
    rw [Text.carries_nil_iff, Text.carries_nil_iff, String.toList_append, String.toList_append,
      Text.replace, String.toList_ofList, hspecial, Chars.quotedAfter_append,
      Chars.quotedAfter_append, Chars.placeholdersFrom_append, Chars.placeholdersFrom_append,
      hopening.placeholdersFrom, Chars.quotedAfter_of_neat hopening, hclosing.placeholdersFrom,
      Chars.quotedAfter_of_neat hclosing, (halike false).1, (halike false).2, Nat.zero_add,
      Nat.add_zero]

end Quoting

/-! ## Literals -/

namespace Text

/-- Inside of a literal, the text behind its first single quote is outside of it again. -/
lemma carries_quoted_iff (body : String) : Carries ("'" ++ body ++ "'") [] ↔
    Chars.quotedAfter true body.toList = true ∧ Chars.placeholdersFrom true body.toList = 0 := by
  have htext : ("'" ++ body ++ "'").toList = '\'' :: (body.toList ++ ['\'']) := by
    simp [String.toList_append]
  rw [carries_nil_iff, htext, Chars.quotedAfter_quote, Chars.placeholdersFrom_quote,
    Chars.quotedAfter_append, Chars.placeholdersFrom_append, Chars.quotedAfter_quote,
    Chars.placeholdersFrom_quote]
  simp [Chars.placeholdersFrom]

/-- A text that begins inside of a literal ends inside of it if its quotes come in pairs. -/
lemma quotedAfter_true_iff (s : List Char) :
    Chars.quotedAfter true s = true ↔ s.count '\'' % 2 = 0 := by
  rw [Chars.quotedAfter_eq]
  split_ifs with h <;> simp [h]

/-- Escaped or not, a text makes the same literal for a scan. -/
lemma carries_escaped_iff (s : String) : Carries ("'" ++ escape s ++ "'") [] ↔
    s.toList.count '\'' % 2 = 0 ∧ Chars.placeholdersFrom true s.toList = 0 := by
  have halike := Chars.scansAlike_escape s.toList true
  rw [carries_quoted_iff, escape, String.toList_ofList, halike.1, halike.2, quotedAfter_true_iff]

end Text

/-! ### Texts that are written for other values -/

/-- Bytes, numbers, identifiers and times are written with hexadecimal digits, digits and a few
marks, none of them a quote or a question mark. -/
lemma Chars.neat_hexDigit {n : ℕ} (h : n < 16) : Neat [hexDigit n] := by
  have hall : ∀ n < 16, Neat [hexDigit n] := by decide
  exact hall n h

lemma Chars.neat_hexBytes (bytes : List UInt8) : Neat (hexBytes bytes) := by
  induction bytes with
  | nil => exact neat_nil
  | cons b bytes ih =>
      rw [hexBytes, List.flatMap_cons, neat_append]
      have hhigh : b.toNat / 16 < 16 := by
        have := b.toNat_lt
        omega
      have hlow : b.toNat % 16 < 16 := Nat.mod_lt _ (by decide)
      have hbyte : Neat ([hexDigit (b.toNat / 16)] ++ [hexDigit (b.toNat % 16)]) :=
        (neat_append ..).mpr ⟨neat_hexDigit hhigh, neat_hexDigit hlow⟩
      exact ⟨hbyte, ih⟩

lemma Chars.neat_hexDigits (width n : ℕ) : Neat (hexDigits width n) := by
  induction width generalizing n with
  | zero => exact neat_nil
  | succ width ih =>
      rw [hexDigits, neat_append]
      exact ⟨ih _, neat_hexDigit (Nat.mod_lt _ (by decide))⟩

lemma Uuid.neat_text (u : Uuid) : Text.Neat u.text := by
  have group : ∀ start length : ℕ, Text.Neat (String.ofList
      (((Chars.hexDigits 32 u.value.toNat).drop start).take length)) := by
    intro start length
    rw [Text.neat_ofList]
    exact (Chars.neat_hexDigits 32 _).subset
      (List.Subset.trans (List.take_subset _ _) (List.drop_subset _ _))
  rw [text]
  refine Text.neat_intercalate (by decide) ?_
  simp only [List.forall_mem_cons, group, true_and]
  simp

lemma neat_padded (width n : ℕ) : Text.Neat (padded width n) := by
  rw [padded, Text.neat_append, Text.neat_ofList]
  refine ⟨fun c hc => ?_, Text.neat_toString_nat n⟩
  rw [List.eq_of_mem_replicate hc]
  decide

lemma Date.neat_text (d : Date) : Text.Neat d.text := by
  have hyear : Text.Neat (yearText d.year) := by
    rw [yearText]
    split_ifs
    · exact (Text.neat_append ..).mpr ⟨by decide, neat_padded _ _⟩
    · exact (Text.neat_append ..).mpr ⟨by decide, Text.neat_toString_nat _⟩
    · exact neat_padded _ _
  simp only [text, Text.neat_append]
  exact ⟨⟨⟨⟨hyear, by decide⟩, neat_padded _ _⟩, by decide⟩, neat_padded _ _⟩

lemma DateTime.neat_text (t : DateTime) : Text.Neat t.text := by
  have hfraction : Text.Neat (fractionText (t.nanos % 1000000000)) := by
    rw [fractionText]
    split_ifs
    · decide
    all_goals exact (Text.neat_append ..).mpr ⟨by decide, neat_padded _ _⟩
  simp only [text, Text.neat_append, neat_padded, Date.neat_text, hfraction, and_true, true_and]
  decide

/-! ### Literals of values -/

namespace Value

/-- The text that a literal quotes, where it may be any text. -/
def body? : Value → Option String
  | .text s => some s
  | .json j => some j.render
  | .null | .bool _ | .int _ | .uint _ | .float _ | .bytes _ | .date _ | .dateTime _ | .uuid _ =>
    none

/-- **Which literals are opaque.**  All are but those of texts: their bodies stand between the
quotes that the scan sees, and only what it takes to be outside counts. -/
lemma carries_literal_iff (v : Value) : Text.Carries v.literal [] ↔
    ∀ body ∈ v.body?, body.toList.count '\'' % 2 = 0 ∧
      Chars.placeholdersFrom true body.toList = 0 := by
  cases v with
  | text s => simpa [body?, literal] using Text.carries_escaped_iff s
  | json j => simpa [body?, literal] using Text.carries_escaped_iff j.render
  | null => exact iff_of_true (by decide) (by simp [body?])
  | bool b => exact iff_of_true (by cases b <;> decide) (by simp [body?])
  | int n => exact iff_of_true (Text.neat_toString_int _).carries (by simp [body?])
  | uint n => exact iff_of_true (Text.neat_toString_nat _).carries (by simp [body?])
  | float x => exact iff_of_true (Double.neat_plainText x).carries (by simp [body?])
  | bytes bs =>
      have hhex : Text.Neat (String.ofList (Chars.hexBytes bs)) :=
        (Text.neat_ofList _).mpr (Chars.neat_hexBytes bs)
      have hliteral : (Value.bytes bs).literal
          = "x" ++ ("'" ++ String.ofList (Chars.hexBytes bs) ++ "'") := by
        simp [literal, ← String.append_assoc]
      have hx : Text.Carries "x" [] := by decide
      rw [hliteral]
      exact iff_of_true (hx.append (Text.carries_literal hhex)) (by simp [body?])
  | date d => exact iff_of_true (Text.carries_literal d.neat_text) (by simp [body?])
  | dateTime t => exact iff_of_true (Text.carries_literal t.neat_text) (by simp [body?])
  | uuid u => exact iff_of_true (Text.carries_literal u.neat_text) (by simp [body?])

end Value

/-! ## The statement -/

/-- **Which quoted names are opaque**: those whose name is, since the marks around it and their
doubling pass unseen. -/
lemma Dialect.carries_segment_iff (d : Dialect) (part : String) :
    Text.Carries (d.quoting.segment part) [] ↔ Text.Carries part [] := by
  cases d with
  | mysql =>
      exact Quoting.carries_segment_iff (q := .backtick) (c := '\x60') rfl (by decide) (by decide)
        (by decide) (by decide) part
  | sqlServer =>
      exact Quoting.carries_segment_iff (q := .bracket) (c := ']') rfl (by decide) (by decide)
        (by decide) (by decide) part
  | ansi | postgres | sqlite =>
      exact Quoting.carries_segment_iff (q := .ansi) (c := '"') rfl (by decide) (by decide)
        (by decide) (by decide) part

/-- **Which quoted tokens are opaque.**  A part of a name, quoted as a dialect quotes names, is so
exactly if its single quotes are even in number and none of its question marks stands outside of
them.  A literal is so exactly if it quotes a text, and of that the single quotes are even in number
and no question mark stands between the first and the second, the third and the fourth and so on;
the literals of all values that are no texts are opaque. -/
theorem quoted_tokens_opaque_iff (d : Dialect) (part : String) (v : Value) :
    (Text.Opaque (d.quoting.segment part) ↔
      part.toList.count '\'' % 2 = 0 ∧ Text.placeholders part = 0) ∧
    (Text.Opaque v.literal ↔ ∀ body ∈ v.body?,
      body.toList.count '\'' % 2 = 0 ∧ Chars.placeholdersFrom true body.toList = 0) := by
  rw [Text.opaque_iff_carries, Text.opaque_iff_carries, d.carries_segment_iff,
    v.carries_literal_iff]
  exact ⟨⟨fun h => ⟨h.closed, h.counted⟩, fun h => ⟨h.1, h.2⟩⟩, Iff.rfl⟩

/-- A question mark in a name takes the value of the placeholder behind it, and a single quote in an
escaped text hides that placeholder. -/
theorem quoted_tokens_disclose :
    let name := Quoting.ansi.segment "a?"
    let literal := (Value.text "it's").literal
    (Text.placeholders (name ++ " = ?") = 2 ∧ Text.placeholders " = ?" = 1 ∧
      Text.interpolate Value.literal (name ++ " = ?") [.int 1] = "\"a1\" = ?") ∧
    (Text.placeholders ("b = " ++ literal ++ " and c = ?") = 0 ∧
      Text.placeholders "b = " + Text.placeholders " and c = ?" = 1 ∧
      Text.interpolate Value.literal ("b = " ++ literal ++ " and c = ?") [.int 1]
        = "b = " ++ literal ++ " and c = ?") := by
  decide +kernel

end SqlWeave
