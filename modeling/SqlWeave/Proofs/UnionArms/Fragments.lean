import Mathlib.Data.List.TakeWhile
import Mathlib.Tactic.Common
import SqlWeave.Proofs.Placeholder.Interpolation
import SqlWeave.Text.Phrase

/-!
# Fragments of a phrase

A phrase is its first fragment and then every other fragment with the blank before it, so a phrase
that grows at its end grows by what is attached there, whatever stands before.

* `Text.attached` — a fragment with the blank before it, or nothing if it is blank.
* `Text.phrase_append`, `Text.attached_phrase` — **a phrase with further fragments**, and a phrase
  as a fragment.
* `Text.count_phrase_cons` — a phrase has the characters of its fragments that are not blank.
* `Text.append_ne_of_mark`, `Text.begins_behind_attached` — two ways to tell texts apart.
-/

namespace SqlWeave

/-! ## Texts that a trim leaves alone -/

namespace Chars

/-- The text begins with a character that is not blank. -/
def Opens (s : List Char) : Prop :=
  ∃ c ∈ s.head?, isBlank c = false

/-- The text ends with a character that is not blank. -/
def Closes (s : List Char) : Prop :=
  ∃ c ∈ s.getLast?, isBlank c = false

variable {s t : List Char}

/-- What a text begins with stays when more is put behind it. -/
lemma Opens.append (h : Opens s) (t : List Char) : Opens (s ++ t) := by
  obtain ⟨c, hc, hblank⟩ := h
  exact ⟨c, by simp_all [List.head?_append], hblank⟩

/-- What a text ends in stays when more is put in front of it. -/
lemma Closes.append (h : Closes t) (s : List Char) : Closes (s ++ t) := by
  obtain ⟨c, hc, hblank⟩ := h
  exact ⟨c, by simp_all [List.getLast?_append], hblank⟩

/-- A text that does not begin with a blank keeps its front. -/
lemma trimStart_of_opens (h : Opens s) : trimStart s = s := by
  obtain ⟨c, hc, hblank⟩ := h
  cases s with
  | nil => cases hc
  | cons d r =>
      cases hc
      exact trimStart_of_not_blank hblank r

/-- A text that does not end in a blank keeps its end. -/
lemma trimEnd_of_closes (h : Closes s) : trimEnd s = s := by
  obtain ⟨c, hc, hblank⟩ := h
  obtain ⟨r, rfl⟩ := List.getLast?_eq_some_iff.mp hc
  induction r with
  | nil => rw [List.nil_append, trimEnd_cons, if_neg (by simp [hblank])]; rfl
  | cons d r ih =>
      rw [List.cons_append, trimEnd_cons, ih (by simp), if_neg (by simp)]

/-- A trim at the end goes no further than the last text that is not all blanks. -/
lemma trimEnd_append (h : trimEnd t ≠ []) (s : List Char) : trimEnd (s ++ t) = s ++ trimEnd t := by
  induction s with
  | nil => rfl
  | cons c s ih =>
      rw [List.cons_append, trimEnd_cons, ih, if_neg (by simp [h]), List.cons_append]

/-- In front of a character that is no blank nothing is trimmed. -/
lemma trim_cons {c : Char} (h : isBlank c = false) (r : List Char) :
    trim (c :: r) = c :: trimEnd r := by
  rw [trim, trimStart_of_not_blank h, trimEnd_cons, if_neg (by simp [h])]

lemma trim_of_tight (ho : Opens s) (hc : Closes s) : trim s = s := by
  rw [trim, trimStart_of_opens ho, trimEnd_of_closes hc]

/-- What is left by a trim at the end does not end in a blank. -/
lemma closes_trimEnd (h : trimEnd s ≠ []) : Closes (trimEnd s) := by
  induction s with
  | nil => exact absurd rfl h
  | cons c r ih =>
      rw [trimEnd_cons] at h ⊢
      split_ifs at h ⊢ with hdrop
      · exact absurd rfl h
      · by_cases hr : trimEnd r = []
        · exact ⟨c, by simp [hr], by simpa [hr] using hdrop⟩
        · exact (ih hr).append [c]

/-- What is left by a trim does not begin with one. -/
lemma opens_trim (h : trim s ≠ []) : Opens (trim s) := by
  rw [trim] at h ⊢
  cases hs : trimStart s with
  | nil => exact absurd (by rw [hs]; rfl) h
  | cons c r =>
      have hblank : isBlank c = false := by
        rw [trimStart] at hs
        simpa only [hs, List.head_cons] using
          List.head_dropWhile_not isBlank (l := s) (by rw [hs]; simp)
      rw [trimEnd_cons, if_neg (by simp [hblank])]
      exact ⟨c, rfl, hblank⟩

end Chars

namespace Text

/-- The text neither begins nor ends with a blank, and is not empty. -/
def Tight (s : String) : Prop :=
  Chars.Opens s.toList ∧ Chars.Closes s.toList

variable {s t : String}

lemma Tight.trim_eq (h : Tight s) : trim s = s := by
  rw [trim, Chars.trim_of_tight h.1 h.2, String.ofList_toList]

lemma Tight.ne_empty (h : Tight s) : s ≠ "" := by
  rintro rfl
  obtain ⟨⟨c, hc, -⟩, -⟩ := h
  cases hc

/-- What is left by a trim is tight, if there is anything. -/
lemma tight_trim (h : trim s ≠ "") : Tight (trim s) := by
  have hne : Chars.trim s.toList ≠ [] := fun hnil => h (by rw [trim, hnil])
  rw [Tight, toList_trim]
  exact ⟨Chars.opens_trim hne, Chars.closes_trimEnd hne⟩

/-- What stands between the ends of a text does not matter. -/
lemma Tight.append (hs : Tight s) (u : String) (ht : Tight t) : Tight (s ++ u ++ t) := by
  simp only [Tight, String.toList_append]
  exact ⟨(hs.1.append _).append _, ht.2.append _⟩

/-! ## Attaching fragments -/

/-- A fragment behind other text: after a blank, unless it is blank itself. -/
def attached (f : String) : String :=
  if trim f = "" then "" else " " ++ trim f

/-- Fragments one behind the other. -/
def attachedAll : List String → String
  | [] => ""
  | f :: fs => attached f ++ attachedAll fs

/-- A tight fragment is attached as it is, behind one blank. -/
lemma Tight.attached_eq (h : Tight t) : attached t = " " ++ t := by
  rw [attached, h.trim_eq, if_neg h.ne_empty]

/-- A fragment that is attached to a tight text leaves it tight, even if there is nothing in it. -/
lemma Tight.append_attached (h : Tight s) (f : String) : Tight (s ++ attached f) := by
  rw [attached]
  split_ifs with hblank
  · rwa [String.append_empty]
  · rw [← String.append_assoc]
    exact h.append " " (tight_trim hblank)

lemma Tight.append_attachedAll (h : Tight s) (fs : List String) : Tight (s ++ attachedAll fs) := by
  induction fs generalizing s with
  | nil => rwa [attachedAll, String.append_empty]
  | cons f fs ih =>
      rw [attachedAll, ← String.append_assoc]
      exact ih (h.append_attached f)

/-- To a tight text a fragment is added by attaching it: the trim of the sum does nothing. -/
lemma Tight.addFragment_eq (h : Tight s) (f : String) : addFragment s f = s ++ attached f := by
  have hs : s.isEmpty = false := by simpa using h.ne_empty
  rw [addFragment, attached, hs]
  by_cases hf : trim f = ""
  · simp [hf]
  · simp [hf, String.append_assoc]

/-- Fragments are added to a tight text as they are, each behind a blank. -/
lemma Tight.foldl_addFragment (h : Tight s) (fs : List String) :
    fs.foldl addFragment s = s ++ attachedAll fs := by
  -- Each sum is tight again, which carries the induction.
  induction fs generalizing s with
  | nil => rw [List.foldl_nil, attachedAll, String.append_empty]
  | cons f fs ih =>
      rw [List.foldl_cons, h.addFragment_eq, ih (h.append_attached f), attachedAll,
        String.append_assoc]

/-- The first fragment of a phrase. -/
lemma phrase_cons (f : String) (fs : List String) :
    phrase (f :: fs) = if trim f = "" then phrase fs else trim f ++ attachedAll fs := by
  rw [phrase, List.foldl_cons, addFragment]
  by_cases hf : trim f = ""
  · simp [hf, phrase]
  · rw [if_neg hf, ← (tight_trim hf).foldl_addFragment]
    simp [hf]

/-- **A phrase behind a tight text** is that text with the fragments attached. -/
lemma phrase_cons_of_tight (h : Tight s) (fs : List String) :
    phrase (s :: fs) = s ++ attachedAll fs := by
  rw [phrase_cons, h.trim_eq, if_neg h.ne_empty]

/-- A text with a character that is no blank is not trimmed away. -/
lemma trim_ne_empty (h : Chars.Opens t.toList) : trim t ≠ "" := by
  obtain ⟨c, hc, hblank⟩ := h
  obtain ⟨r, hr⟩ := List.head?_eq_some_iff.mp hc
  rw [Ne, ← String.toList_eq_nil_iff, toList_trim, hr, Chars.trim_cons hblank]
  exact List.cons_ne_nil _ _

/-- A phrase whose first fragment begins with such a character is tight. -/
lemma tight_phrase_cons (h : Chars.Opens t.toList) (fs : List String) :
    Tight (phrase (t :: fs)) := by
  rw [phrase_cons, if_neg (trim_ne_empty h)]
  exact (tight_trim (trim_ne_empty h)).append_attachedAll fs

@[simp] lemma attached_empty : attached "" = "" := by
  decide

/-- A fragment may be cut at a blank inside of it. -/
lemma phrase_cut (hs : Tight s) (ht : Chars.Opens t.toList) (fs : List String) :
    phrase ((s ++ " " ++ t) :: fs) = phrase (s :: t :: fs) := by
  have hend : Chars.trimEnd t.toList = Chars.trim t.toList := by
    rw [Chars.trim, Chars.trimStart_of_opens ht]
  have hne : Chars.trim t.toList ≠ [] := by
    rw [← toList_trim, Ne, String.toList_eq_nil_iff]
    exact trim_ne_empty ht
  have htrim : trim (s ++ " " ++ t) = s ++ " " ++ trim t := by
    have hopens : Chars.Opens (s ++ " " ++ t).toList := by
      rw [String.append_assoc, String.toList_append]
      exact hs.1.append _
    rw [← String.toList_inj, toList_trim, Chars.trim, Chars.trimStart_of_opens hopens]
    simp only [String.toList_append, toList_trim]
    rw [Chars.trimEnd_append (hend ▸ hne), hend]
  have htight : Tight (s ++ " " ++ trim t) := hs.append " " (tight_trim (trim_ne_empty ht))
  rw [phrase_cons, htrim, if_neg htight.ne_empty, phrase_cons_of_tight hs, attachedAll, attached,
    if_neg (trim_ne_empty ht), ← String.append_assoc, ← String.append_assoc]

/-- Further fragments are attached to a phrase. -/
lemma phrase_append (h : Chars.Opens t.toList) (fs gs : List String) :
    phrase (t :: fs ++ gs) = phrase (t :: fs) ++ attachedAll gs := by
  rw [← (tight_phrase_cons h fs).foldl_addFragment gs, phrase, phrase, List.foldl_append]

/-- A phrase as a fragment is its fragments one behind the other. -/
lemma attached_phrase (fs : List String) : attached (phrase fs) = attachedAll fs := by
  induction fs with
  | nil => rfl
  | cons f fs ih =>
      rw [phrase_cons]
      split_ifs with hf
      · rw [ih, attachedAll, attached, if_pos hf, String.empty_append]
      · rw [((tight_trim hf).append_attachedAll fs).attached_eq, attachedAll, attached, if_neg hf,
          String.append_assoc]

/-! ## Counting characters -/

/-- How often a character stands in a text. -/
def count (c : Char) (t : String) : Nat :=
  t.toList.count c

@[simp] lemma count_empty (c : Char) : count c "" = 0 := rfl

@[simp] lemma count_append (c : Char) (s t : String) :
    count c (s ++ t) = count c s + count c t := by
  rw [count, String.toList_append, List.count_append, count, count]

variable {c : Char}

/-- A character that is no blank survives a trim. -/
lemma count_trim (hc : isBlank c = false) (t : String) : count c (trim t) = count c t := by
  obtain ⟨a, b, ht, ha, hb⟩ := Chars.exists_trim t.toList
  have hnone : ∀ l : List Char, (∀ d ∈ l, isBlank d = true) → l.count c = 0 := by
    intro l hl
    refine List.count_eq_zero.mpr fun hmem => ?_
    rw [hl c hmem] at hc
    cases hc
  have hcount := congrArg (List.count c) ht
  rw [List.count_append, List.count_append, hnone a ha, hnone b hb] at hcount
  rw [count, count, toList_trim, hcount, Nat.zero_add, Nat.add_zero]

/-- Attaching a fragment adds its characters. -/
lemma count_attached (hc : isBlank c = false) (t : String) : count c (attached t) = count c t := by
  have hblank : count c " " = 0 := by
    refine List.count_eq_zero.mpr fun hmem => ?_
    obtain rfl : c = ' ' := by simpa using hmem
    cases hc
  rw [← count_trim hc t, attached]
  split_ifs with ht
  · rw [ht]
  · rw [count_append, hblank, Nat.zero_add]

lemma count_phrase_cons (hc : isBlank c = false) (t : String) (fs : List String) :
    count c (phrase (t :: fs)) = count c t + count c (phrase fs) := by
  rw [← count_attached hc (phrase (t :: fs)), attached_phrase, attachedAll, count_append,
    count_attached hc, ← attached_phrase, count_attached hc]

/-- There are only digits in a number. -/
lemma count_toString (hc : c.isDigit = false) (n : ℕ) : count c (toString n) = 0 := by
  refine List.count_eq_zero.mpr fun hmem => ?_
  rw [Nat.toString_eq_ofList_toDigits, String.toList_ofList] at hmem
  rw [Nat.isDigit_of_mem_toDigits (by decide) (by decide) hmem] at hc
  cases hc

/-! ## Texts that differ -/

/-- A text is not moved over a mark that neither of the texts behind has. -/
lemma append_ne_of_mark {s w t t' : String} (hs : s ≠ "") (hw : 0 < count c w)
    (ht : count c t = 0) (ht' : count c t' = 0) : s ++ (w ++ t) ≠ w ++ t' := by
  intro heq
  -- Both sides are read backwards from the last mark.
  have hbehind : ∀ u : String, count c u = 0 → ∀ d ∈ u.toList.reverse, (d != c) = true := by
    rintro u hu d hd
    rw [bne_iff_ne]
    rintro rfl
    exact List.count_eq_zero.mp hu (List.mem_reverse.mp hd)
  have hmark : w.toList.reverse.dropWhile (· != c) ≠ [] := by
    rw [Ne, List.dropWhile_eq_nil_iff]
    intro hall
    simpa using hall c (List.mem_reverse.mpr (List.count_pos_iff.mp hw))
  have hrev := congrArg (fun u : String => u.toList.reverse.dropWhile (· != c)) heq
  simp only [String.toList_append, List.reverse_append, List.append_assoc,
    List.dropWhile_append_of_pos (hbehind t ht), List.dropWhile_append_of_pos (hbehind t' ht')]
    at hrev
  rw [List.dropWhile_append, if_neg (by rwa [List.isEmpty_iff]), List.append_right_eq_self,
    List.reverse_eq_nil_iff, String.toList_eq_nil_iff] at hrev
  exact hs hrev

/-! ## What a text begins with -/

/-- What a text and something behind it begin with, the text begins with by itself, if what stands
behind begins in another way. -/
lemma begins_of_append {a b z : List Char} (h : a <+: b ++ z) (hz : ∀ d ∈ z.head?, d ∉ a) :
    a <+: b := by
  rcases List.prefix_or_prefix_of_prefix h (List.prefix_append b z) with hab | ⟨e, rfl⟩
  · exact hab
  · cases e with
    | nil => simp
    | cons d e =>
        obtain ⟨y, hy⟩ := (List.prefix_append_right_inj b).mp h
        subst hy
        exact absurd (by simp) (hz d rfl)

/-- The text is empty or begins with a character that is neither blank nor `d`. -/
def Avoids (d : Char) (f : String) : Prop :=
  f = "" ∨ ∃ c ∈ f.toList.head?, isBlank c = false ∧ c ≠ d

/-- A text that begins with another character avoids this one, whatever follows. -/
lemma avoids_append {d : Char} {w : String}
    (h : ∃ c ∈ w.toList.head?, isBlank c = false ∧ c ≠ d) (f : String) : Avoids d (w ++ f) := by
  obtain ⟨c, hc, hother⟩ := h
  refine .inr ⟨c, ?_, hother⟩
  simp_all [String.toList_append, List.head?_append]

/-- What begins with a blank and a character is not found in a fragment that avoids this
character. -/
lemma begins_behind_attached {a z : List Char} {d : Char} {f : String} (hf : Avoids d f)
    (h : ' ' :: d :: a <+: (attached f).toList ++ z) : ' ' :: d :: a <+: z := by
  obtain rfl | ⟨c, hc, hblank, hne⟩ := hf
  · exact h
  · obtain ⟨r, hr⟩ := List.head?_eq_some_iff.mp hc
    have htrim : (attached f).toList = ' ' :: c :: Chars.trimEnd r := by
      rw [attached, if_neg (trim_ne_empty ⟨c, hc, hblank⟩), String.toList_append, toList_trim, hr,
        Chars.trim_cons hblank]
      rfl
    rw [htrim, List.cons_append, List.cons_append, List.cons_prefix_cons,
      List.cons_prefix_cons] at h
    exact absurd h.2.1.symm hne

end Text

end SqlWeave
