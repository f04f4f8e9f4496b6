import SqlWeave.Text.Blank

/-!
# Aliases

The word that separates a name from its alias, in any case and between blanks.

* `Text.splitAlias?` — the name and the alias on the two sides of the first separator.
* `Chars.length_splitAlias?` — both sides are shorter than the whole, so functions may recurse on
  them.
-/

namespace SqlWeave

namespace Chars

/-- Whether a character counts as the letter a. -/
def isLetterA (c : Char) : Bool :=
  c == 'a' || c == 'A'

/-- Whether a character counts as the letter s; the long s does. -/
def isLetterS (c : Char) : Bool :=
  c == 's' || c == 'S' || c == 'ſ'

/-- What follows the word and the blanks after it, if both stand here. -/
def afterWord? : List Char → Option (List Char)
  | a :: b :: c :: r =>
    if isLetterA a && isLetterS b && isBlank c then some (r.dropWhile isBlank) else none
  | _ => none

/-- What follows a separator that begins here: blanks, the word, and all the blanks after it. -/
def afterSeparator? : List Char → Option (List Char)
  | [] => none
  | c :: r => if isBlank c then afterWord? (r.dropWhile isBlank) else none

/-- The two sides of the first separator. -/
def splitAlias? : List Char → Option (List Char × List Char)
  | [] => none
  | c :: r =>
    ((afterSeparator? (c :: r)).map fun rest => ([], rest)).or
      ((splitAlias? r).map fun sides => (c :: sides.1, sides.2))

end Chars

namespace Text

/-- The name and the alias on the two sides of the first separator. -/
def splitAlias? (s : String) : Option (String × String) :=
  (Chars.splitAlias? s.toList).map fun sides => (String.ofList sides.1, String.ofList sides.2)

end Text

/-! ## Both sides are shorter -/

namespace Chars

theorem length_afterWord? {s rest : List Char} (h : afterWord? s = some rest) :
    rest.length < s.length := by
  match s with
  | [] | [_] | [_, _] => simp [afterWord?] at h
  | a :: b :: c :: r =>
    simp only [afterWord?, Option.ite_none_right_eq_some, Option.some.injEq] at h
    obtain ⟨-, rfl⟩ := h
    have := (List.dropWhile_sublist isBlank (l := r)).length_le
    simp only [List.length_cons]
    omega

theorem length_afterSeparator? {s rest : List Char} (h : afterSeparator? s = some rest) :
    rest.length < s.length := by
  match s with
  | [] => simp [afterSeparator?] at h
  | c :: r =>
    simp only [afterSeparator?, Option.ite_none_right_eq_some] at h
    have hw := length_afterWord? h.2
    have := (List.dropWhile_sublist isBlank (l := r)).length_le
    simp only [List.length_cons]
    omega

theorem length_splitAlias? {s l r : List Char} (h : splitAlias? s = some (l, r)) :
    l.length < s.length ∧ r.length < s.length := by
  induction s generalizing l r with
  | nil => simp [splitAlias?] at h
  | cons c t ih =>
    rw [splitAlias?, Option.or_eq_some_iff, Option.map_eq_some_iff, Option.map_eq_some_iff] at h
    simp only [Prod.mk.injEq] at h
    simp only [List.length_cons]
    rcases h with ⟨rest, hs, rfl, rfl⟩ | ⟨-, ⟨l', r'⟩, ht, rfl, rfl⟩
    · have := length_afterSeparator? hs
      simp only [List.length_cons, List.length_nil] at this ⊢
      omega
    · have := ih ht
      simp only [List.length_cons]
      omega

end Chars

theorem Text.length_splitAlias? {s l r : String} (h : Text.splitAlias? s = some (l, r)) :
    l.length < s.length ∧ r.length < s.length := by
  simp only [Text.splitAlias?, Option.map_eq_some_iff, Prod.mk.injEq] at h
  obtain ⟨⟨a, b⟩, hs, rfl, rfl⟩ := h
  have := Chars.length_splitAlias? hs
  simpa [String.length_toList] using this

end SqlWeave
