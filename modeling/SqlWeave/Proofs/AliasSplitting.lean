import Mathlib.Data.List.TakeWhile
import SqlWeave.Proofs.Portability.SharedStyles
import SqlWeave.Proofs.Reading.Names

/-!
# Where a name is split

A name may be split at every place where the word of an alias stands between blanks.  It is split at
the first of these, and all blanks there go with the word.  So what stands on the left has no alias
of its own and does not end in a blank, which is what lets names and tables be written by splitting
once.

* `Text.Separates` — **the specification**: a place where a name may be split.
* `Chars.splitAlias?_eq_some_iff`, `Chars.splitAlias?_iff_separates` — **the first separator**,
  found from the left.
* `Text.splitAlias?_part` — the left side and its parts have no alias.
* `alias_split_at_first_separator` — the statement.
-/

namespace SqlWeave

namespace Chars

/-! ## Separators -/

/-- The spellings of the word.  Both letters may be in either case, and the long s is an s in lower
case. -/
def aliasWords : List (List Char) :=
  [['a', 's'], ['a', 'S'], ['a', 'ſ'], ['A', 's'], ['A', 'S'], ['A', 'ſ']]

/-- A text is `l` and `r` with a separator between them: blanks, the word, and again blanks. -/
structure Separates (v l before word after r : List Char) : Prop where
  text : v = l ++ (before ++ (word ++ (after ++ r)))
  before_ne : before ≠ []
  before_blank : ∀ c ∈ before, isBlank c = true
  word_mem : word ∈ aliasWords
  after_ne : after ≠ []
  after_blank : ∀ c ∈ after, isBlank c = true

/-- The six spellings are those that the scanner accepts letter by letter. -/
lemma mem_aliasWords {a s : Char} : [a, s] ∈ aliasWords ↔ isLetterA a ∧ isLetterS s := by
  simp only [aliasWords, List.mem_cons, List.cons.injEq, List.not_mem_nil, isLetterA, isLetterS,
    Bool.or_eq_true, beq_iff_eq]
  tauto

/-- No spelling begins with a blank, so the blanks before the word end there. -/
lemma exists_of_mem_aliasWords {word : List Char} (h : word ∈ aliasWords) :
    ∃ a s, word = [a, s] ∧ isBlank a = false := by
  simp only [aliasWords, List.mem_cons, List.not_mem_nil, or_false] at h
  rcases h with rfl | rfl | rfl | rfl | rfl | rfl <;> exact ⟨_, _, rfl, rfl⟩

variable {v t l r before word after : List Char}

/-- The blanks before the word are all that a separator begins with. -/
lemma Separates.takeWhile_eq (h : Separates t [] before word after r) :
    t.takeWhile isBlank = before := by
  obtain ⟨a, s, rfl, ha⟩ := exists_of_mem_aliasWords h.word_mem
  rw [h.text, List.nil_append, List.takeWhile_append_of_pos h.before_blank, List.cons_append,
    List.takeWhile_cons_of_neg (by simp [ha]), List.append_nil]

/-- **A separator is found where it begins**, with all the blanks that follow the word. -/
lemma Separates.afterSeparator?_eq (h : Separates t [] before word after r) :
    afterSeparator? t = some (r.dropWhile isBlank) := by
  obtain ⟨htext, hbefore, hblank, hword, hafter, hblank'⟩ := h
  obtain ⟨c, before, rfl⟩ := List.exists_cons_of_ne_nil hbefore
  obtain ⟨d, after, rfl⟩ := List.exists_cons_of_ne_nil hafter
  obtain ⟨a, s, rfl, ha⟩ := exists_of_mem_aliasWords hword
  rw [mem_aliasWords] at hword
  rw [List.forall_mem_cons] at hblank hblank'
  rw [htext, List.nil_append, List.cons_append, afterSeparator?, if_pos hblank.1,
    List.dropWhile_append_of_pos hblank.2]
  simp [ha, afterWord?, hword, hblank'.1, List.dropWhile_append_of_pos hblank'.2]

/-- A separator is the same with other text in front of it. -/
lemma Separates.behind (h : Separates t [] before word after r) (l : List Char) :
    Separates (l ++ t) l before word after r where
  __ := h
  text := congrArg (l ++ ·) h.text

lemma Separates.front (h : Separates v l before word after r) :
    Separates (before ++ (word ++ (after ++ r))) [] before word after r where
  __ := h
  text := rfl

/-- A separator may take one more blank. -/
lemma Separates.longer {c : Char} (h : Separates v l before word after (c :: r))
    (hc : isBlank c = true) : Separates v l before word (after ++ [c]) r where
  __ := h
  text := by rw [h.text]; simp
  after_ne := by simp
  after_blank d hd := by
    rcases List.mem_append.mp hd with hd | hd
    · exact h.after_blank d hd
    · exact List.mem_singleton.mp hd ▸ hc

/-- Of the separators that begin at one place, the one that is found takes the most blanks. -/
lemma Separates.length_after_le {before' word' after' r' : List Char}
    (h : Separates t [] before word after r) (h' : Separates t [] before' word' after' r')
    (hr : afterSeparator? t = some r) : after'.length ≤ after.length := by
  have hbefore : before = before' := h.takeWhile_eq.symm.trans h'.takeWhile_eq
  obtain ⟨_, _, rfl, -⟩ := exists_of_mem_aliasWords h.word_mem
  obtain ⟨_, _, rfl, -⟩ := exists_of_mem_aliasWords h'.word_mem
  have hlength := congrArg List.length (h.text.symm.trans h'.text)
  have hrest : r = r'.dropWhile isBlank := Option.some.inj (hr.symm.trans h'.afterSeparator?_eq)
  have hle := (List.dropWhile_sublist isBlank (l := r')).length_le
  rw [← hrest] at hle
  simp only [List.length_append, List.length_cons, hbefore] at hlength
  omega

/-- What is found where a separator begins is one, and what is left does not begin with a blank. -/
lemma exists_separates (h : afterSeparator? t = some r) :
    (∃ before word after, Separates t [] before word after r) ∧
      ∀ c ∈ r.head?, isBlank c = false := by
  cases t with
  | nil => cases h
  | cons c t =>
      simp only [afterSeparator?, Option.ite_none_right_eq_some] at h
      obtain ⟨hc, hword⟩ := h
      have ht := List.takeWhile_append_dropWhile (p := isBlank) (l := t)
      -- The word needs two letters and a blank, so three characters follow the blanks before it.
      obtain ⟨a, s, d, u, hdrop⟩ : ∃ a s d u, t.dropWhile isBlank = a :: s :: d :: u := by
        rcases hdrop : t.dropWhile isBlank with _ | ⟨a, _ | ⟨s, _ | ⟨d, u⟩⟩⟩
        case cons.cons.cons => exact ⟨a, s, d, u, rfl⟩
        all_goals
          rw [hdrop] at hword
          cases hword
      rw [hdrop] at hword ht
      simp only [afterWord?, Option.ite_none_right_eq_some, Bool.and_eq_true,
        Option.some.injEq] at hword
      obtain ⟨⟨⟨ha, hs⟩, hd⟩, rfl⟩ := hword
      refine ⟨⟨c :: t.takeWhile isBlank, [a, s], d :: u.takeWhile isBlank, ?_⟩, ?_⟩
      · refine ⟨?_, List.cons_ne_nil _ _, ?_, mem_aliasWords.mpr ⟨ha, hs⟩,
          List.cons_ne_nil _ _, ?_⟩
        · exact congrArg (c :: ·) (ht.symm.trans (by simp))
        · exact List.forall_mem_cons.mpr ⟨hc, fun _ => List.mem_takeWhile_imp⟩
        · exact List.forall_mem_cons.mpr ⟨hd, fun _ => List.mem_takeWhile_imp⟩
      · intro e he
        have hnot := List.head?_dropWhile_not isBlank u
        rw [he] at hnot
        simpa using hnot

/-! ## The first separator -/

/-- **A text is split where the first separator begins.** -/
lemma splitAlias?_eq_some_iff : splitAlias? v = some (l, r) ↔
    ∃ t, v = l ++ t ∧ afterSeparator? t = some r ∧
      ∀ l' t', v = l' ++ t' → l'.length < l.length → afterSeparator? t' = none := by
  induction v generalizing l with
  | nil =>
      constructor
      · rintro h
        cases h
      · rintro ⟨t, ht, h, -⟩
        obtain ⟨rfl, rfl⟩ := List.append_eq_nil_iff.mp ht.symm
        cases h
  | cons c v ih =>
      rw [splitAlias?, Option.or_eq_some_iff, Option.map_eq_some_iff, Option.map_eq_none_iff,
        Option.map_eq_some_iff]
      -- The left side is empty exactly if the separator begins here.
      cases l with
      | nil =>
          constructor
          · rintro (⟨rest, hrest, heq⟩ | ⟨-, sides, -, heq⟩)
            · cases heq
              exact ⟨c :: v, rfl, hrest, fun _ _ _ hlt => absurd hlt (Nat.not_lt_zero _)⟩
            · cases heq
          · rintro ⟨t, rfl, h, -⟩
            exact .inl ⟨r, h, rfl⟩
      | cons d l =>
          constructor
          · rintro (⟨rest, -, heq⟩ | ⟨hnone, ⟨l, r⟩, hsides, heq⟩)
            · cases heq
            · cases heq
              obtain ⟨t, rfl, ht, hfirst⟩ := ih.mp hsides
              refine ⟨t, rfl, ht, fun l' t' heq hlt => ?_⟩
              cases l' with
              | nil =>
                  cases heq
                  exact hnone
              | cons e l' =>
                  exact hfirst l' t' (List.cons.inj heq).2 (Nat.lt_of_succ_lt_succ hlt)
          · rintro ⟨t, heq, ht, hfirst⟩
            obtain ⟨rfl, rfl⟩ := List.cons.inj heq
            refine .inr ⟨hfirst [] _ rfl (Nat.succ_pos _), (l, r), ih.mpr ⟨t, rfl, ht, ?_⟩, rfl⟩
            exact fun l' t' heq hlt =>
              hfirst (c :: l') t' (congrArg (c :: ·) heq) (Nat.succ_lt_succ hlt)

/-- **A text is split at the first separator**, which takes as many blanks as it can. -/
lemma splitAlias?_iff_separates : splitAlias? v = some (l, r) ↔
    ∃ before word after, Separates v l before word after r ∧
      (∀ l' before' word' after' r',
        Separates v l' before' word' after' r' → l.length ≤ l'.length) ∧
      ∀ before' word' after' r',
        Separates v l before' word' after' r' → after'.length ≤ after.length := by
  constructor
  · intro h
    obtain ⟨t, rfl, ht, hfirst⟩ := splitAlias?_eq_some_iff.mp h
    obtain ⟨⟨before, word, after, hsep⟩, -⟩ := exists_separates ht
    refine ⟨before, word, after, hsep.behind l, fun l' before' word' after' r' h' => ?_, ?_⟩
    · by_contra hlt
      have hnone := hfirst l' _ h'.text (Nat.lt_of_not_le hlt)
      rw [h'.front.afterSeparator?_eq] at hnone
      cases hnone
    · intro before' word' after' r' h'
      have hfront := h'.front
      rw [← List.append_cancel_left h'.text] at hfront
      exact hsep.length_after_le hfront ht
  · rintro ⟨before, word, after, hsep, hleast, hmost⟩
    -- With a blank in front of `r` the separator could be longer.
    have hr : r.dropWhile isBlank = r := by
      cases r with
      | nil => rfl
      | cons c r =>
          exact List.dropWhile_cons_of_neg fun hc =>
            absurd (hmost _ _ _ _ (hsep.longer hc)) (by simp)
    refine splitAlias?_eq_some_iff.mpr ⟨_, hsep.text, ?_, fun l' t' heq hlt => ?_⟩
    · rw [hsep.front.afterSeparator?_eq, hr]
    · refine Option.eq_none_iff_forall_ne_some.mpr fun r' hr' => ?_
      obtain ⟨⟨before', word', after', h'⟩, -⟩ := exists_separates hr'
      subst heq
      exact absurd (hleast _ _ _ _ _ (h'.behind l')) (Nat.not_le.mpr hlt)

/-! ## The left side -/

/-- What stands behind a text has an alias only if the whole has one. -/
lemma splitAlias?_behind {s : List Char} (h : splitAlias? (s ++ t) = none) :
    splitAlias? t = none := by
  induction s with
  | nil => exact h
  | cons c s ih =>
      rw [List.cons_append, splitAlias?, Option.or_eq_none_iff, Option.map_eq_none_iff,
        Option.map_eq_none_iff] at h
      exact ih h.2

/-- The left side has no alias, for its separator would be an earlier one of the whole. -/
lemma splitAlias?_left (h : splitAlias? v = some (l, r)) : splitAlias? l = none := by
  obtain ⟨t, rfl, -, hfirst⟩ := splitAlias?_eq_some_iff.mp h
  refine Option.eq_none_iff_forall_ne_some.mpr fun sides hsides => ?_
  obtain ⟨u, rfl, hu, -⟩ := splitAlias?_eq_some_iff.mp hsides
  have hlt : sides.1.length < (sides.1 ++ u).length := by
    cases u with
    | nil => cases hu
    | cons c u => simp
  have hsome := afterSeparator?_append hu t
  rw [hfirst sides.1 (u ++ t) (List.append_assoc _ _ _) hlt] at hsome
  cases hsome

/-- The left side does not end in a blank, for the separator would have begun with it. -/
lemma closed_left (h : splitAlias? v = some (l, r)) : ∀ c ∈ l.getLast?, isBlank c = false := by
  obtain ⟨t, rfl, ht, hfirst⟩ := splitAlias?_eq_some_iff.mp h
  intro c hc
  obtain ⟨l, rfl⟩ := List.getLast?_eq_some_iff.mp hc
  by_contra hblank
  rw [Bool.not_eq_false] at hblank
  obtain ⟨⟨before, word, after, hsep⟩, -⟩ := exists_separates ht
  have hearlier : Separates (c :: t) [] (c :: before) word after r := {
    hsep with
    text := congrArg (c :: ·) hsep.text
    before_ne := List.cons_ne_nil _ _
    before_blank := List.forall_mem_cons.mpr ⟨hblank, hsep.before_blank⟩ }
  have hnone := hfirst l (c :: t) (by simp) (by simp)
  rw [hearlier.afterSeparator?_eq] at hnone
  cases hnone

/-- What follows the separator does not begin with a blank, as it has taken them all. -/
lemma opened_right (h : splitAlias? v = some (l, r)) : ∀ c ∈ r.head?, isBlank c = false := by
  obtain ⟨t, -, ht, -⟩ := splitAlias?_eq_some_iff.mp h
  exact (exists_separates ht).2

end Chars

namespace Text

variable {v l r part : String}

/-- A text is `l` and `r` with a separator between them. -/
def Separates (v l before word after r : String) : Prop :=
  Chars.Separates v.toList l.toList before.toList word.toList after.toList r.toList

lemma splitAlias?_toList :
    splitAlias? v = some (l, r) ↔ Chars.splitAlias? v.toList = some (l.toList, r.toList) := by
  rw [splitAlias?, Option.map_eq_some_iff]
  constructor
  · rintro ⟨⟨a, b⟩, h, heq⟩
    cases heq
    simpa using h
  · intro h
    exact ⟨_, h, by simp⟩

/-- **The first separator with all of its blanks**, for texts. -/
lemma splitAlias?_iff_separates : splitAlias? v = some (l, r) ↔
    ∃ before word after, Separates v l before word after r ∧
      (∀ l' before' word' after' r',
        Separates v l' before' word' after' r' → l.length ≤ l'.length) ∧
      ∀ before' word' after' r',
        Separates v l before' word' after' r' → after'.length ≤ after.length := by
  have hall : ∀ p : List Char → Prop, (∀ x, p x) ↔ ∀ x : String, p x.toList := fun p =>
    ⟨fun h x => h _, fun h x => by simpa using h (String.ofList x)⟩
  have hany : ∀ p : List Char → Prop, (∃ x, p x) ↔ ∃ x : String, p x.toList := fun p =>
    ⟨fun ⟨x, h⟩ => ⟨String.ofList x, by simpa using h⟩, fun ⟨x, h⟩ => ⟨_, h⟩⟩
  simp only [splitAlias?_toList, Chars.splitAlias?_iff_separates, hall, hany, Separates,
    String.length_toList]

/-- No part of the left side has an alias. -/
lemma splitAlias?_part (h : splitAlias? v = some (l, r)) (hpart : part.toList <:+: l.toList) :
    splitAlias? part = none := by
  obtain ⟨a, b, hl⟩ := hpart
  have hleft := Chars.splitAlias?_left (splitAlias?_toList.mp h)
  rw [← hl] at hleft
  rw [splitAlias?, Option.map_eq_none_iff]
  exact Chars.splitAlias?_behind (Chars.splitAlias?_append hleft)

/-- Where a text is not split there is no separator. -/
lemma not_separates (h : splitAlias? v = none) (l before word after r : String) :
    ¬Separates v l before word after r := by
  intro hsep
  rw [splitAlias?, Option.map_eq_none_iff, hsep.text] at h
  have hnone := Chars.splitAlias?_behind h
  have hsome : Chars.splitAlias? (before.toList ++ (word.toList ++ (after.toList ++ r.toList)))
      = some ([], r.toList.dropWhile isBlank) :=
    Chars.splitAlias?_eq_some_iff.mpr
      ⟨_, rfl, hsep.front.afterSeparator?_eq, fun _ _ _ hlt => absurd hlt (Nat.not_lt_zero _)⟩
  rw [hsome] at hnone
  cases hnone

end Text

/-! ## The statement -/

/-- **A name is split at its first separator.**  A text has an alias exactly if it has a separator,
and it is then split at the one that begins first and takes the most blanks.  No part of the left
side has a separator, it does not end in a blank, the alias does not begin with one, and both are
shorter than the whole.  So columns and tables are split once: whatever part of the left side is
written as a column or a table again is written without a further split. -/
theorem alias_split_at_first_separator (v : String) :
    (∀ l r, Text.splitAlias? v = some (l, r) ↔
      ∃ before word after, Text.Separates v l before word after r ∧
        (∀ l' before' word' after' r',
          Text.Separates v l' before' word' after' r' → l.length ≤ l'.length) ∧
        ∀ before' word' after' r',
          Text.Separates v l before' word' after' r' → after'.length ≤ after.length) ∧
    (Text.splitAlias? v = none →
      ∀ s : Style, s.column v = s.bareColumn v ∧ s.table v = s.bareTable v) ∧
    ∀ l r, Text.splitAlias? v = some (l, r) →
      (∀ l' before word after r', ¬Text.Separates l l' before word after r') ∧
      (∀ c ∈ l.toList.getLast?, isBlank c = false) ∧
      (∀ c ∈ r.toList.head?, isBlank c = false) ∧
      l.length < v.length ∧ r.length < v.length ∧
      (∀ s : Style, s.column v = s.column l ++ " as " ++ s.segment r ∧
        s.table v = s.table l ++ " as " ++ s.prefixed r) ∧
      ∀ part : String, part.toList <:+: l.toList → Text.splitAlias? part = none ∧
        ∀ s : Style, s.column part = s.bareColumn part ∧ s.table part = s.bareTable part := by
  refine ⟨fun l r => Text.splitAlias?_iff_separates,
    fun h s => ⟨s.column_of_bare h, s.table_of_bare h⟩, fun l r h => ?_⟩
  have hchars := Text.splitAlias?_toList.mp h
  have hpart : ∀ part : String, part.toList <:+: l.toList → Text.splitAlias? part = none :=
    fun part => Text.splitAlias?_part h
  have hlength := Text.length_splitAlias? h
  refine ⟨Text.not_separates (hpart l (List.infix_refl _)), Chars.closed_left hchars,
    Chars.opened_right hchars, hlength.1, hlength.2,
    fun s => ⟨s.column_of_alias h, s.table_of_alias h⟩, fun part hinfix => ⟨hpart part hinfix, ?_⟩⟩
  exact fun s => ⟨s.column_of_bare (hpart part hinfix), s.table_of_bare (hpart part hinfix)⟩

/-- The word twice in a row between blanks of several kinds, in capitals and with a long s. -/
theorem alias_split_at_first_separator_twice :
    let v := "a\u00a0\tAſ\n as as b"
    Text.splitAlias? v = some ("a", "as as b") ∧
    (∀ l' before word after r', ¬Text.Separates "a" l' before word after r') ∧
    (Style.plain .ansi).column v = "\"a\" as \"as as b\"" := by
  intro v
  have h : Text.splitAlias? v = some ("a", "as as b") := by decide +kernel
  obtain ⟨-, -, hsplit⟩ := alias_split_at_first_separator v
  obtain ⟨hnone, -, -, -, -, hwritten, hpart⟩ := hsplit _ _ h
  refine ⟨h, hnone, ?_⟩
  rw [(hwritten _).1, ((hpart "a" (List.infix_refl _)).2 _).1]
  decide +kernel

end SqlWeave
