import SqlWeave.Proofs.Placeholder.Neat
import SqlWeave.Value.Literal

/-!
# Scanning for placeholders

A scan for placeholders carries one bit along: whether it is inside of a literal.  So what it does
with the second of two parts depends on the first part by this bit alone, and the values that it
writes into the first part are the first ones.

* `Chars.placeholdersFrom_append`, `Chars.interpolateFrom_append` — **two parts**, with
  `Chars.quotedAfter` for the bit between them.
* `Chars.IsMark` — literals that a trim does not cut and a scan does not take for anything else.
* `Chars.trim_interpolateFrom` — writing marks in and trimming may change places.
* `Chars.scan_interpolateFrom` — what a scan finds in a text into which marks are written.
-/

namespace SqlWeave

/-! ## One character -/

namespace Chars

/-- Whether a text that begins inside or outside of a literal ends inside of one. -/
def quotedAfter (quoted : Bool) : List Char → Bool
  | [] => quoted
  | c :: r => quotedAfter (if c = '\'' then !quoted else quoted) r

/-- A scan carries one bit from character to character; the first lemmas say what one character does
to it, to the count and to the text. -/
@[simp] lemma quotedAfter_nil (quoted : Bool) : quotedAfter quoted [] = quoted := rfl

lemma placeholdersFrom_quote (quoted : Bool) (r : List Char) :
    placeholdersFrom quoted ('\'' :: r) = placeholdersFrom (!quoted) r := by
  simp [placeholdersFrom]

lemma placeholdersFrom_mark (r : List Char) :
    placeholdersFrom false ('?' :: r) = placeholdersFrom false r + 1 := by
  simp [placeholdersFrom]

/-- Any character but a quote is passed, and a question mark too if it is inside of a literal. -/
lemma placeholdersFrom_other {quoted : Bool} {c : Char} (hquote : c ≠ '\'')
    (hmark : c = '?' → quoted = true) (r : List Char) :
    placeholdersFrom quoted (c :: r) = placeholdersFrom quoted r := by
  rw [placeholdersFrom, if_neg hquote, if_neg]
  rintro ⟨hc, hq⟩
  rw [hmark hc] at hq
  cases hq

lemma interpolateFrom_quote (quoted : Bool) (literals : List (List Char)) (r : List Char) :
    interpolateFrom quoted literals ('\'' :: r) = '\'' :: interpolateFrom (!quoted) literals r := by
  simp [interpolateFrom]

lemma interpolateFrom_mark (literals : List (List Char)) (r : List Char) :
    interpolateFrom false literals ('?' :: r)
      = literals.headD ['?'] ++ interpolateFrom false literals.tail r := by
  simp [interpolateFrom]

lemma interpolateFrom_other {quoted : Bool} {c : Char} (hquote : c ≠ '\'')
    (hmark : c = '?' → quoted = true) (literals : List (List Char)) (r : List Char) :
    interpolateFrom quoted literals (c :: r) = c :: interpolateFrom quoted literals r := by
  rw [interpolateFrom, if_neg hquote, if_neg]
  rintro ⟨hc, hq⟩
  rw [hmark hc] at hq
  cases hq

lemma quotedAfter_quote (quoted : Bool) (r : List Char) :
    quotedAfter quoted ('\'' :: r) = quotedAfter (!quoted) r := by
  simp [quotedAfter]

lemma quotedAfter_other (quoted : Bool) {c : Char} (hquote : c ≠ '\'') (r : List Char) :
    quotedAfter quoted (c :: r) = quotedAfter quoted r := by
  simp [quotedAfter, hquote]

/-- A scan meets a quote, a placeholder, or a character of no account. -/
lemma scan_cases (quoted : Bool) (c : Char) :
    c = '\'' ∨ (c = '?' ∧ quoted = false) ∨ (c ≠ '\'' ∧ (c = '?' → quoted = true)) := by
  by_cases hquote : c = '\''
  · exact Or.inl hquote
  · cases quoted with
    | false =>
        by_cases hmark : c = '?'
        · exact Or.inr (Or.inl ⟨hmark, rfl⟩)
        · exact Or.inr (Or.inr ⟨hquote, fun h => absurd h hmark⟩)
    | true => exact Or.inr (Or.inr ⟨hquote, fun _ => rfl⟩)

/-! ## Two parts -/

/-- A scan of two parts is a scan of the first and, from where that ends, a scan of the second. -/
lemma quotedAfter_append (quoted : Bool) (a b : List Char) :
    quotedAfter quoted (a ++ b) = quotedAfter (quotedAfter quoted a) b := by
  induction a generalizing quoted with
  | nil => rfl
  | cons c r ih => exact ih _

/-- The placeholders of two parts add up. -/
lemma placeholdersFrom_append (quoted : Bool) (a b : List Char) :
    placeholdersFrom quoted (a ++ b)
      = placeholdersFrom quoted a + placeholdersFrom (quotedAfter quoted a) b := by
  induction a generalizing quoted with
  | nil => simp [placeholdersFrom]
  | cons c r ih =>
      rw [List.cons_append]
      rcases scan_cases quoted c with rfl | ⟨rfl, rfl⟩ | ⟨hquote, hmark⟩
      · rw [placeholdersFrom_quote, placeholdersFrom_quote, quotedAfter_quote, ih]
      · rw [placeholdersFrom_mark, placeholdersFrom_mark, quotedAfter_other _ (by decide), ih]
        omega
      · rw [placeholdersFrom_other hquote hmark, placeholdersFrom_other hquote hmark,
          quotedAfter_other _ hquote, ih]

/-- As many literals as a part has placeholders are used up by it. -/
lemma interpolateFrom_append {quoted : Bool} {a : List Char} {literals : List (List Char)}
    (h : literals.length = placeholdersFrom quoted a) (b : List Char)
    (later : List (List Char)) :
    interpolateFrom quoted (literals ++ later) (a ++ b)
      = interpolateFrom quoted literals a ++ interpolateFrom (quotedAfter quoted a) later b := by
  induction a generalizing quoted literals with
  | nil =>
      rw [placeholdersFrom, List.length_eq_zero_iff] at h
      subst h
      rfl
  | cons c r ih =>
      rw [List.cons_append]
      rcases scan_cases quoted c with rfl | ⟨rfl, rfl⟩ | ⟨hquote, hmark⟩
      · rw [placeholdersFrom_quote] at h
        rw [interpolateFrom_quote, interpolateFrom_quote, quotedAfter_quote, ih h, List.cons_append]
      · rw [placeholdersFrom_mark] at h
        obtain ⟨l, ls, rfl⟩ := List.exists_cons_of_length_eq_add_one h
        have hls : ls.length = placeholdersFrom false r := by simpa using h
        rw [interpolateFrom_mark, interpolateFrom_mark, quotedAfter_other _ (by decide)]
        simp only [List.cons_append, List.headD_cons, List.tail_cons, ih hls, List.append_assoc]
      · rw [placeholdersFrom_other hquote hmark] at h
        rw [interpolateFrom_other hquote hmark, interpolateFrom_other hquote hmark,
          quotedAfter_other _ hquote, ih h, List.cons_append]

/-- The values that the first part leaves go to the second one. -/
lemma interpolateFrom_append_drop (quoted : Bool) (literals : List (List Char)) (a b : List Char) :
    interpolateFrom quoted literals (a ++ b) = interpolateFrom quoted literals a
      ++ interpolateFrom (quotedAfter quoted a) (literals.drop (placeholdersFrom quoted a)) b := by
  induction a generalizing quoted literals with
  | nil => simp [placeholdersFrom, interpolateFrom]
  | cons c r ih =>
      rw [List.cons_append]
      rcases scan_cases quoted c with rfl | ⟨rfl, rfl⟩ | ⟨hquote, hmark⟩
      · rw [interpolateFrom_quote, interpolateFrom_quote, placeholdersFrom_quote,
          quotedAfter_quote, ih, List.cons_append]
      · rw [interpolateFrom_mark, interpolateFrom_mark, placeholdersFrom_mark,
          quotedAfter_other _ (by decide), ih, List.append_assoc, List.drop_tail]
      · rw [interpolateFrom_other hquote hmark, interpolateFrom_other hquote hmark,
          placeholdersFrom_other hquote hmark, quotedAfter_other _ hquote, ih, List.cons_append]

/-- Without literals every placeholder stays. -/
lemma interpolateFrom_nil (quoted : Bool) (s : List Char) : interpolateFrom quoted [] s = s := by
  induction s generalizing quoted with
  | nil => rfl
  | cons c r ih =>
      rw [interpolateFrom]
      split_ifs with hquote hmark
      · rw [ih]
      · simp [ih]
      · rw [ih]

/-! ## Literals that are closed -/

/-- An even number of quotes leaves the text as it was. -/
lemma quotedAfter_eq (quoted : Bool) (s : List Char) :
    quotedAfter quoted s = if s.count '\'' % 2 = 0 then quoted else !quoted := by
  induction s generalizing quoted with
  | nil => simp
  | cons c r ih =>
      by_cases hquote : c = '\''
      · subst hquote
        rw [quotedAfter_quote, ih, List.count_cons_self]
        rcases Nat.mod_two_eq_zero_or_one (r.count '\'') with h | h
        · rw [if_pos h, if_neg (by omega)]
        · rw [if_neg (by omega), if_pos (by omega), Bool.not_not]
      · rw [quotedAfter_other _ hquote, ih, List.count_cons_of_ne hquote]

/-- A neat text has no placeholder, from whichever side it is looked at. -/
lemma Neat.placeholdersFrom {s : List Char} (h : Neat s) (quoted : Bool) :
    placeholdersFrom quoted s = 0 := by
  induction s with
  | nil => rfl
  | cons c r ih =>
      obtain ⟨hc, hr⟩ := (neat_cons c r).mp h
      rw [placeholdersFrom_other hc.1 (fun hmark => absurd hmark hc.2), ih hr]

/-- A neat text has no quote to count. -/
lemma Neat.count_quote {s : List Char} (h : Neat s) : s.count '\'' = 0 :=
  List.count_eq_zero.mpr fun hmem => (h '\'' hmem).1 rfl

/-! ## Marks

A literal without blanks, quotes and question marks is neither cut by a trim nor read as anything
else than itself. -/

/-- Not empty, and without blanks, quotes and question marks. -/
def IsMark (s : List Char) : Prop :=
  s ≠ [] ∧ Neat s ∧ ∀ c ∈ s, isBlank c = false

/-- A blank is neither a quote nor a question mark. -/
lemma neat_of_isBlank {c : Char} (h : isBlank c = true) : c ≠ '\'' ∧ c ≠ '?' := by
  refine ⟨?_, ?_⟩ <;>
  · rintro rfl
    exact absurd h (by decide)

/-- The text that a placeholder becomes. -/
lemma isMark_headD_or {literals : List (List Char)} (h : ∀ l ∈ literals, IsMark l) :
    literals.headD ['?'] ≠ [] ∧ ∀ c ∈ literals.headD ['?'], isBlank c = false := by
  cases literals with
  | nil => exact ⟨List.cons_ne_nil _ _, List.forall_mem_singleton.mpr (by decide)⟩
  | cons l ls => exact ⟨(h l List.mem_cons_self).1, (h l List.mem_cons_self).2.2⟩

/-- The marks that are left over are marks. -/
lemma isMark_tail {literals : List (List Char)} (h : ∀ l ∈ literals, IsMark l) :
    ∀ l ∈ literals.tail, IsMark l :=
  fun l hl => h l (List.mem_of_mem_tail hl)

/-- A mark is not empty, so writing marks in empties no text. -/
lemma interpolateFrom_eq_nil {literals : List (List Char)} (h : ∀ l ∈ literals, IsMark l)
    (quoted : Bool) (s : List Char) : interpolateFrom quoted literals s = [] ↔ s = [] := by
  cases s with
  | nil => exact Iff.rfl
  | cons c r =>
      rcases scan_cases quoted c with rfl | ⟨rfl, rfl⟩ | ⟨hquote, hmark⟩
      · simp [interpolateFrom_quote]
      · rw [interpolateFrom_mark]
        simp only [List.append_eq_nil_iff, (isMark_headD_or h).1, false_and, reduceCtorEq]
      · simp [interpolateFrom_other hquote hmark]

/-! ### Trimming -/

lemma trimStart_of_blank {c : Char} (h : isBlank c = true) (r : List Char) :
    trimStart (c :: r) = trimStart r :=
  List.dropWhile_cons_of_pos h

lemma trimStart_of_not_blank {c : Char} (h : isBlank c = false) (r : List Char) :
    trimStart (c :: r) = c :: r :=
  List.dropWhile_cons_of_neg (by simp [h])

/-- A blank at the end goes if everything behind it goes. -/
lemma trimEnd_cons (c : Char) (r : List Char) :
    trimEnd (c :: r) = if trimEnd r = [] ∧ isBlank c = true then [] else c :: trimEnd r := by
  rw [trimEnd]
  cases trimEnd r with
  | nil => simp
  | cons d t => simp

/-- A text without blanks keeps all that it has in front of another. -/
lemma trimEnd_append_of_not_blank {a : List Char} (h : ∀ c ∈ a, isBlank c = false)
    (b : List Char) : trimEnd (a ++ b) = a ++ trimEnd b := by
  induction a with
  | nil => rfl
  | cons c r ih =>
      obtain ⟨hc, hr⟩ := List.forall_mem_cons.mp h
      rw [List.cons_append, trimEnd_cons, if_neg (by simp [hc]), ih hr, List.cons_append]

/-- **Trimming the front and writing marks in may change places**: a mark has no blanks, so none is
dropped from it. -/
lemma trimStart_interpolateFrom {literals : List (List Char)} (h : ∀ l ∈ literals, IsMark l)
    (quoted : Bool) (s : List Char) :
    trimStart (interpolateFrom quoted literals s)
      = interpolateFrom quoted literals (trimStart s) := by
  induction s with
  | nil => rfl
  | cons c r ih =>
      by_cases hblank : isBlank c = true
      · obtain ⟨hquote, hmark⟩ := neat_of_isBlank hblank
        rw [interpolateFrom_other hquote (fun hc => absurd hc hmark), trimStart_of_blank hblank,
          trimStart_of_blank hblank, ih]
      · rw [Bool.not_eq_true] at hblank
        rw [trimStart_of_not_blank hblank]
        rcases scan_cases quoted c with rfl | ⟨rfl, rfl⟩ | ⟨hquote, hmark⟩
        · rw [interpolateFrom_quote, trimStart_of_not_blank hblank]
        · rw [interpolateFrom_mark]
          obtain ⟨hne, hhead⟩ := isMark_headD_or h
          obtain ⟨d, t, hd⟩ := List.exists_cons_of_ne_nil hne
          rw [hd] at hhead ⊢
          rw [List.cons_append, trimStart_of_not_blank (hhead d List.mem_cons_self)]
        · rw [interpolateFrom_other hquote hmark, trimStart_of_not_blank hblank]

/-- The same for the end, where a mark stops the trim. -/
lemma trimEnd_interpolateFrom {literals : List (List Char)} (h : ∀ l ∈ literals, IsMark l)
    (quoted : Bool) (s : List Char) :
    trimEnd (interpolateFrom quoted literals s) = interpolateFrom quoted literals (trimEnd s) := by
  induction s generalizing quoted literals with
  | nil => rfl
  | cons c r ih =>
      rw [trimEnd_cons]
      rcases scan_cases quoted c with rfl | ⟨rfl, rfl⟩ | ⟨hquote, hmark⟩
      · have hblank : isBlank '\'' = false := rfl
        rw [interpolateFrom_quote, trimEnd_cons, ih h, if_neg (by simp [hblank]),
          if_neg (by simp [hblank]), interpolateFrom_quote]
      · have hblank : isBlank '?' = false := rfl
        rw [interpolateFrom_mark, trimEnd_append_of_not_blank (isMark_headD_or h).2,
          ih (isMark_tail h), if_neg (by simp [hblank]), interpolateFrom_mark]
      · rw [interpolateFrom_other hquote hmark, trimEnd_cons, ih h]
        simp only [interpolateFrom_eq_nil h]
        split_ifs
        · rfl
        · rw [interpolateFrom_other hquote hmark]

lemma trim_interpolateFrom {literals : List (List Char)} (h : ∀ l ∈ literals, IsMark l)
    (s : List Char) : trim (interpolateFrom false literals s)
      = interpolateFrom false literals (trim s) := by
  rw [trim, trimStart_interpolateFrom h, trimEnd_interpolateFrom h, trim]

/-- What a trim cuts off is blank. -/
lemma exists_trim (s : List Char) : ∃ a b, s = a ++ trim s ++ b ∧
    (∀ c ∈ a, isBlank c = true) ∧ ∀ c ∈ b, isBlank c = true := by
  have hend : ∀ t : List Char, ∃ b, t = trimEnd t ++ b ∧ ∀ c ∈ b, isBlank c = true := by
    intro t
    induction t with
    | nil => exact ⟨[], rfl, by simp⟩
    | cons c r ih =>
        obtain ⟨b, hb, hblank⟩ := ih
        rw [trimEnd_cons]
        split_ifs with hdrop
        · rw [hdrop.1, List.nil_append] at hb
          subst hb
          exact ⟨c :: r, rfl, List.forall_mem_cons.mpr ⟨hdrop.2, hblank⟩⟩
        · exact ⟨b, by rw [List.cons_append, ← hb], hblank⟩
  obtain ⟨b, hb, hblank⟩ := hend (trimStart s)
  refine ⟨s.takeWhile isBlank, b, ?_, fun c hc => ?_, hblank⟩
  · rw [List.append_assoc, trim, ← hb, trimStart, List.takeWhile_append_dropWhile]
  · exact List.all_eq_true.mp List.all_takeWhile c hc

/-! ### Writing marks in -/

/-- A scan comes out of a neat text as it went in. -/
lemma quotedAfter_of_neat {s : List Char} (h : Neat s) (quoted : Bool) :
    quotedAfter quoted s = quoted := by
  rw [quotedAfter_eq, h.count_quote]
  rfl

/-- Marks in place of placeholders neither open a literal nor leave a placeholder. -/
lemma scan_interpolateFrom {literals : List (List Char)} (h : ∀ l ∈ literals, IsMark l)
    {quoted : Bool} {s : List Char} (hlength : literals.length = placeholdersFrom quoted s) :
    quotedAfter quoted (interpolateFrom quoted literals s) = quotedAfter quoted s ∧
      placeholdersFrom quoted (interpolateFrom quoted literals s) = 0 := by
  induction s generalizing quoted literals with
  | nil => exact ⟨rfl, rfl⟩
  | cons c r ih =>
      rcases scan_cases quoted c with rfl | ⟨rfl, rfl⟩ | ⟨hquote, hmark⟩
      · rw [placeholdersFrom_quote] at hlength
        rw [interpolateFrom_quote, quotedAfter_quote, quotedAfter_quote, placeholdersFrom_quote]
        exact ih h hlength
      · rw [placeholdersFrom_mark] at hlength
        obtain ⟨l, ls, rfl⟩ := List.exists_cons_of_length_eq_add_one hlength
        have hls : ls.length = placeholdersFrom false r := by simpa using hlength
        obtain ⟨hl, hrest⟩ := List.forall_mem_cons.mp h
        rw [interpolateFrom_mark, List.headD_cons, List.tail_cons, quotedAfter_append,
          placeholdersFrom_append, quotedAfter_of_neat hl.2.1, hl.2.1.placeholdersFrom,
          quotedAfter_other _ (by decide), Nat.zero_add]
        exact ih hrest hls
      · rw [placeholdersFrom_other hquote hmark] at hlength
        rw [interpolateFrom_other hquote hmark, quotedAfter_other _ hquote,
          quotedAfter_other _ hquote, placeholdersFrom_other hquote hmark]
        exact ih h hlength

end Chars

end SqlWeave
