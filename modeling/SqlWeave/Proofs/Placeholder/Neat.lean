import Mathlib.Tactic.Common
import SqlWeave.Number.Shortest
import SqlWeave.Style.Alias
import SqlWeave.Style.Dialect
import SqlWeave.Style.Quoting

/-!
# Texts without marks

Two characters decide which question marks of a statement are placeholders: the question mark and
the single quote.  A text that has neither may stand anywhere in a statement and neither adds a
placeholder nor moves the border of a literal.

* `Text.Neat` — **the property**.
* `Text.neat_*` — what is cut out of a neat text, put together from neat texts or written by a
  number is neat.
* `Dialect.ne_quote_of_knows` — no operator that a dialect knows has a single quote.
-/

namespace SqlWeave

/-! ## On characters -/

namespace Chars

/-- Neither a single quote nor a question mark. -/
def Neat (s : List Char) : Prop :=
  ∀ c ∈ s, c ≠ '\'' ∧ c ≠ '?'

instance (s : List Char) : Decidable (Neat s) :=
  List.decidableBAll (fun c => c ≠ '\'' ∧ c ≠ '?') s

/-- The empty text is neat, and so is one that begins with neither mark and goes on neatly. -/
@[simp] lemma neat_nil : Neat [] := by
  intro c hc
  simp at hc

@[simp] lemma neat_cons (c : Char) (s : List Char) :
    Neat (c :: s) ↔ (c ≠ '\'' ∧ c ≠ '?') ∧ Neat s := by
  simp only [Neat, List.forall_mem_cons]

@[simp] lemma neat_append (s t : List Char) : Neat (s ++ t) ↔ Neat s ∧ Neat t := by
  simp only [Neat, List.forall_mem_append]

/-- Whatever is cut out of a neat text is neat, as its characters are among those of the text. -/
lemma Neat.subset {s t : List Char} (h : Neat t) (hst : s ⊆ t) : Neat s :=
  fun c hc => h c (hst hc)

/-! What is cut out of a text is a part of it. -/

/-- Behind a word of a separator stands what is left of the text. -/
lemma subset_afterWord? {s rest : List Char} (h : afterWord? s = some rest) : rest ⊆ s := by
  match s with
  | [] | [_] | [_, _] => simp [afterWord?] at h
  | a :: b :: c :: r =>
      simp only [afterWord?, Option.ite_none_right_eq_some, Option.some.injEq] at h
      obtain ⟨-, rfl⟩ := h
      have hdrop : r.dropWhile isBlank ⊆ r := (List.dropWhile_sublist isBlank).subset
      intro d hd
      simp [hdrop hd]

lemma subset_afterSeparator? {s rest : List Char} (h : afterSeparator? s = some rest) :
    rest ⊆ s := by
  cases s with
  | nil => simp [afterSeparator?] at h
  | cons c r =>
      simp only [afterSeparator?, Option.ite_none_right_eq_some] at h
      have hdrop : r.dropWhile isBlank ⊆ r := (List.dropWhile_sublist isBlank).subset
      intro d hd
      exact List.mem_cons_of_mem _ (hdrop (subset_afterWord? h.2 hd))

/-- Both sides of an alias are parts of the name. -/
lemma subset_splitAlias? {s l r : List Char} (h : splitAlias? s = some (l, r)) :
    l ⊆ s ∧ r ⊆ s := by
  induction s generalizing l r with
  | nil => simp [splitAlias?] at h
  | cons c t ih =>
      rw [splitAlias?, Option.or_eq_some_iff, Option.map_eq_some_iff, Option.map_eq_some_iff] at h
      simp only [Prod.mk.injEq] at h
      rcases h with ⟨rest, hrest, rfl, rfl⟩ | ⟨-, ⟨l', r'⟩, hsides, rfl, rfl⟩
      · exact ⟨List.nil_subset _, subset_afterSeparator? hrest⟩
      · obtain ⟨hl, hr⟩ := ih hsides
        exact ⟨List.cons_subset_cons c hl, fun d hd => List.mem_cons_of_mem c (hr hd)⟩

/-- Both sides of the last mark are parts of the text. -/
lemma subset_cutLast? {mark : Char} {s l r : List Char} (h : cutLast? mark s = some (l, r)) :
    l ⊆ s ∧ r ⊆ s := by
  induction s generalizing l r with
  | nil => simp [cutLast?] at h
  | cons c t ih =>
      rw [cutLast?] at h
      cases hsides : cutLast? mark t with
      | some sides =>
          rw [hsides, Option.some.injEq, Prod.mk.injEq] at h
          obtain ⟨rfl, rfl⟩ := h
          obtain ⟨hl, hr⟩ := ih hsides
          exact ⟨List.cons_subset_cons c hl, fun d hd => List.mem_cons_of_mem c (hr hd)⟩
      | none =>
          rw [hsides] at h
          simp only [Option.ite_none_right_eq_some, Option.some.injEq, Prod.mk.injEq] at h
          obtain ⟨-, rfl, rfl⟩ := h
          exact ⟨List.nil_subset _, List.subset_cons_self c t⟩

/-- Pieces of the rest of a text, with the first character put back. -/
lemma subset_consFirst {c : Char} {t : List Char} {ps : List (List Char)}
    (h : ∀ p ∈ ps, p ⊆ t) : ∀ p ∈ consFirst c ps, p ⊆ c :: t := by
  intro p hp
  cases ps with
  | nil =>
      simp only [consFirst, List.mem_singleton] at hp
      subst hp
      simp
  | cons q qs =>
      simp only [consFirst, List.mem_cons] at hp
      rcases hp with rfl | hp
      · exact List.cons_subset_cons c (h q List.mem_cons_self)
      · exact List.subset_cons_of_subset c (h p (List.mem_cons_of_mem q hp))

/-- The pieces between the marks are parts of the text. -/
lemma subset_pieces (mark : Char) (s : List Char) : ∀ p ∈ pieces mark s, p ⊆ s := by
  induction s with
  | nil => simp [pieces]
  | cons c t ih =>
      rw [pieces]
      split_ifs
      · intro p hp
        rcases List.mem_cons.mp hp with rfl | hp
        · exact List.nil_subset _
        · exact List.subset_cons_of_subset c (ih p hp)
      · exact subset_consFirst ih

/-- The pieces between the arrows are parts of the text. -/
lemma subset_arrowPieces (s : List Char) : ∀ p ∈ arrowPieces s, p ⊆ s := by
  fun_induction arrowPieces s with
  | case1 r ih =>
      intro p hp
      rcases List.mem_cons.mp hp with rfl | hp
      · exact List.nil_subset _
      · exact List.subset_cons_of_subset _ (List.subset_cons_of_subset _ (ih p hp))
  | case2 c r _ ih => exact subset_consFirst ih
  | case3 => simp

/-- Replacing puts in nothing but the new text, wherever the search stands. -/
lemma neat_replaceFrom {old new : List Char} (hnew : Neat new) {s : List Char} (h : Neat s)
    (skip : ℕ) : Neat (replaceFrom old new skip s) := by
  induction s generalizing skip with
  | nil => cases skip <;> simp [replaceFrom]
  | cons c r ih =>
      obtain ⟨hc, hr⟩ := (neat_cons c r).mp h
      cases skip with
      | zero =>
          rw [replaceFrom]
          split_ifs
          · exact (neat_append ..).mpr ⟨hnew, ih hr _⟩
          · exact (neat_cons ..).mpr ⟨hc, ih hr _⟩
      | succ skip => exact ih hr skip

lemma neat_replace {old new s : List Char} (hnew : Neat new) (h : Neat s) :
    Neat (replace old new s) := by
  rw [replace]
  split_ifs
  · exact h
  · exact neat_replaceFrom hnew h 0

/-- Without single quotes there is nothing to write twice. -/
lemma doubleQuotes_of_neat {s : List Char} (h : Neat s) : doubleQuotes s = s := by
  induction s with
  | nil => rfl
  | cons c r ih =>
      obtain ⟨hc, hr⟩ := (neat_cons c r).mp h
      have htail : r.flatMap (fun d => if d = '\'' then ['\'', '\''] else [d]) = r := ih hr
      simp [doubleQuotes, hc.1, htail]

/-! ### Arrows -/

/-- There is always a first piece, even of the empty text. -/
lemma arrowPieces_ne_nil (s : List Char) : arrowPieces s ≠ [] := by
  fun_induction arrowPieces s with
  | case1 r _ => exact List.cons_ne_nil _ _
  | case2 c r _ ih =>
      cases hpieces : arrowPieces r with
      | nil => exact absurd hpieces ih
      | cons p ps => exact List.cons_ne_nil _ _
  | case3 => exact List.cons_ne_nil _ _

/-- A text has an arrow if and only if it is in more than one piece. -/
lemma hasArrow_iff (s : List Char) : hasArrow s = true ↔ 1 < (arrowPieces s).length := by
  fun_induction arrowPieces s with
  | case1 r _ =>
      have hlength := List.length_pos_iff.mpr (arrowPieces_ne_nil r)
      simp [hasArrow, hlength]
  | case2 c r hne ih =>
      have hrest : hasArrow (c :: r) = hasArrow r := by
        rw [hasArrow]
        exact hne
      have hlength : (consFirst c (arrowPieces r)).length = (arrowPieces r).length := by
        cases hpieces : arrowPieces r with
        | nil => exact absurd hpieces (arrowPieces_ne_nil r)
        | cons p ps => rfl
      rw [hrest, ih, hlength]
  | case3 => simp [hasArrow]

end Chars

/-! ## On strings -/

namespace Text

/-- Neither a single quote nor a question mark. -/
def Neat (s : String) : Prop :=
  Chars.Neat s.toList

instance (s : String) : Decidable (Neat s) :=
  inferInstanceAs (Decidable (Chars.Neat s.toList))

/-- A string is neat as the list of its characters is. -/
@[simp] lemma neat_ofList (s : List Char) : Neat (String.ofList s) ↔ Chars.Neat s := by
  rw [Neat, String.toList_ofList]

@[simp] lemma neat_empty : Neat "" := Chars.neat_nil

@[simp] lemma neat_append (s t : String) : Neat (s ++ t) ↔ Neat s ∧ Neat t := by
  rw [Neat, String.toList_append, Chars.neat_append, Neat, Neat]

/-- Neat texts with a neat text between them. -/
lemma neat_intercalate {sep : String} (hsep : Neat sep) {parts : List String}
    (h : ∀ p ∈ parts, Neat p) : Neat (sep.intercalate parts) := by
  induction parts with
  | nil => simp
  | cons p ps ih =>
      obtain ⟨hp, hps⟩ := List.forall_mem_cons.mp h
      cases ps with
      | nil => simpa using hp
      | cons q qs =>
          rw [String.intercalate_cons_cons, neat_append, neat_append]
          exact ⟨⟨hp, hsep⟩, ih hps⟩

lemma neat_splitAlias? {s l r : String} (h : Neat s) (hsides : splitAlias? s = some (l, r)) :
    Neat l ∧ Neat r := by
  simp only [splitAlias?, Option.map_eq_some_iff, Prod.mk.injEq] at hsides
  obtain ⟨⟨a, b⟩, hab, rfl, rfl⟩ := hsides
  obtain ⟨ha, hb⟩ := Chars.subset_splitAlias? hab
  exact ⟨(neat_ofList a).mpr (h.subset ha), (neat_ofList b).mpr (h.subset hb)⟩

lemma neat_cutLast? {mark : Char} {s l r : String} (h : Neat s)
    (hsides : cutLast? mark s = some (l, r)) : Neat l ∧ Neat r := by
  simp only [cutLast?, Option.map_eq_some_iff, Prod.mk.injEq] at hsides
  obtain ⟨⟨a, b⟩, hab, rfl, rfl⟩ := hsides
  obtain ⟨ha, hb⟩ := Chars.subset_cutLast? hab
  exact ⟨(neat_ofList a).mpr (h.subset ha), (neat_ofList b).mpr (h.subset hb)⟩

lemma neat_pieces {mark : Char} {s : String} (h : Neat s) : ∀ p ∈ pieces mark s, Neat p := by
  intro p hp
  obtain ⟨cs, hcs, rfl⟩ := List.mem_map.mp hp
  exact (neat_ofList cs).mpr (h.subset (Chars.subset_pieces mark _ cs hcs))

lemma neat_arrowPieces {s : String} (h : Neat s) : ∀ p ∈ arrowPieces s, Neat p := by
  intro p hp
  obtain ⟨cs, hcs, rfl⟩ := List.mem_map.mp hp
  exact (neat_ofList cs).mpr (h.subset (Chars.subset_arrowPieces _ cs hcs))

lemma neat_replace (old : String) {new s : String} (hnew : Neat new) (h : Neat s) :
    Neat (replace old new s) :=
  (neat_ofList _).mpr (Chars.neat_replace hnew h)

/-- There is no quote in a neat text to be doubled. -/
lemma doubleQuotes_of_neat {s : String} (h : Neat s) : doubleQuotes s = s := by
  rw [doubleQuotes, Chars.doubleQuotes_of_neat h, String.ofList_toList]

/-- An arrow stands somewhere exactly if it leaves several pieces. -/
lemma hasArrow_iff (s : String) : hasArrow s = true ↔ 1 < (arrowPieces s).length := by
  rw [hasArrow, arrowPieces, List.length_map]
  exact Chars.hasArrow_iff _

end Text

/-! ## Numbers -/

lemma Chars.neat_of_isDigit {s : List Char} (h : ∀ c ∈ s, c.isDigit = true) : Neat s := by
  intro c hc
  have hdigit := h c hc
  refine ⟨?_, ?_⟩ <;>
  · rintro rfl
    exact absurd hdigit (by decide)

namespace Text

lemma neat_toString_nat (n : ℕ) : Neat (toString n) := by
  rw [Nat.toString_eq_ofList_toDigits, neat_ofList]
  exact Chars.neat_of_isDigit fun c hc => Nat.isDigit_of_mem_toDigits (by decide) (by decide) hc

lemma neat_toString_int (n : Int) : Neat (toString n) := by
  cases n with
  | ofNat n => exact neat_toString_nat n
  | negSucc n =>
      show Neat ("-" ++ toString (n + 1))
      exact (neat_append ..).mpr ⟨by decide, neat_toString_nat _⟩

end Text

lemma Decimal.neat_zeros (n : ℕ) : Text.Neat (zeros n) := by
  rw [zeros, Text.neat_ofList]
  intro c hc
  rw [List.eq_of_mem_replicate hc]
  decide

/-- A decimal is written with digits, a sign and a point. -/
lemma Decimal.neat_positional (d : Decimal) : Text.Neat d.positional := by
  have hdigits : Text.Neat (toString d.digits) := Text.neat_toString_nat d.digits
  rw [positional]
  simp only []
  split_ifs
  · exact (Text.neat_append ..).mpr ⟨hdigits, neat_zeros _⟩
  · simp only [Text.neat_append, Text.neat_ofList]
    exact ⟨⟨hdigits.subset (List.take_subset _ _), by decide⟩,
      hdigits.subset (List.drop_subset _ _)⟩
  · simp only [Text.neat_append]
    exact ⟨⟨by decide, neat_zeros _⟩, hdigits⟩

/-- A floating-point number is written with digits, a sign and a point, or as a word. -/
lemma Double.neat_plainText (x : Double) : Text.Neat x.plainText := by
  have hsign : Text.Neat (signText x) := by
    rw [signText]
    split_ifs <;> decide
  rw [plainText]
  split_ifs
  · exact (Text.neat_append ..).mpr ⟨hsign, by decide⟩
  · exact (Text.neat_append ..).mpr ⟨hsign, Decimal.neat_positional _⟩
  · exact (Text.neat_append ..).mpr ⟨hsign, by decide⟩
  · decide

/-! ## Operators -/

/-- Lowering a letter makes no mark of it. -/
lemma Chars.toLower_eq_of_lt {c d : Char} (hd : d.val < 'a'.val) (h : c.toLower = d) : c = d := by
  by_cases hupper : c.val ≥ 'A'.val ∧ c.val ≤ 'Z'.val
  · have hval : c.toLower.val = c.val + ('a'.val - 'A'.val) := congrArg Char.val (dif_pos hupper)
    rw [← h, hval] at hd
    simp [UInt32.le_iff_toNat_le, UInt32.lt_iff_toNat_lt] at hupper hd
    omega
  · have hsame : c.toLower = c := dif_neg hupper
    rw [← hsame, h]

/-- A small character of the text in lower case was there before: no letter becomes a quote or a
question mark. -/
lemma Text.mem_of_mem_lower {s : String} {d : Char} (hd : d.val < 'a'.val)
    (h : d ∈ (lower s).toList) : d ∈ s.toList := by
  rw [lower, String.toList_ofList, List.mem_map] at h
  obtain ⟨c, hc, hcd⟩ := h
  rw [← Chars.toLower_eq_of_lt hd hcd]
  exact hc

/-- No operator that a dialect knows has a single quote. -/
lemma Dialect.ne_quote_of_knows {d : Dialect} {operator : String} (h : d.knows operator = true) :
    '\'' ∉ (Text.lower operator).toList := by
  have hcommon : ∀ name ∈ commonOperators, '\'' ∉ name.toList := by decide
  have hown : ∀ name ∈ d.ownOperators, '\'' ∉ name.toList := by cases d <;> decide
  rw [knows] at h
  simp only [Bool.or_eq_true, List.contains_iff_mem] at h
  rcases h with h | h
  · exact hcommon _ h
  · exact hown _ h

/-- Hence a known operator without a question mark is neat. -/
lemma Dialect.neat_lower_of_knows {d : Dialect} {operator : String} (h : d.knows operator = true)
    (hmark : '?' ∉ operator.toList) : Text.Neat (Text.lower operator) := by
  intro c hc
  refine ⟨?_, ?_⟩
  · rintro rfl
    exact ne_quote_of_knows h hc
  · rintro rfl
    exact hmark (Text.mem_of_mem_lower (by decide) hc)

end SqlWeave
