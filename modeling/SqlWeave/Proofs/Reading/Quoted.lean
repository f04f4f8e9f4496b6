import Mathlib.Tactic.Common
import SqlWeave.Text.Search

/-!
# Reading quoted text

A text between quotes may hold the closing quote if it is written twice there.  Then a reader finds
the end of the text, whatever is in it and whatever follows, and knows what was quoted.

* `Chars.doubled` — a text in which every occurrence of a mark is written twice.
* `Chars.readQuoted?` — **the reader** of a text behind its opening quote.
* `Chars.readQuoted?_doubled` — it reads back what was written.
* `Chars.readParts?` — **the reader** of quoted parts with dots between them.
* `Chars.readParts?_intercalate` — it reads the parts back if it reads each one back.
-/

namespace SqlWeave

namespace Chars

variable {mark opening closing : Char}

/-! ## Doubled marks -/

/-- Writes every occurrence of a mark twice. -/
def doubled (mark : Char) (s : List Char) : List Char :=
  s.flatMap fun c => if c = mark then [mark, mark] else [c]

lemma doubled_cons_self (mark : Char) (s : List Char) :
    doubled mark (mark :: s) = mark :: mark :: doubled mark s := by
  simp [doubled]

lemma doubled_cons {c : Char} (h : c ≠ mark) (s : List Char) :
    doubled mark (c :: s) = c :: doubled mark s := by
  simp [doubled, h]

lemma doubled_append (mark : Char) (s t : List Char) :
    doubled mark (s ++ t) = doubled mark s ++ doubled mark t :=
  List.flatMap_append

/-- Without the mark there is nothing to write twice. -/
lemma doubled_of_notMem {s : List Char} (h : mark ∉ s) : doubled mark s = s := by
  induction s with
  | nil => rfl
  | cons c r ih =>
      rw [List.mem_cons, not_or] at h
      rw [doubled_cons (Ne.symm h.1), ih h.2]

/-- What is done to single quotes in a literal is the same as what is done to the marks of names. -/
lemma doubleQuotes_eq_doubled (s : List Char) : doubleQuotes s = doubled '\'' s :=
  rfl

/-- One character at a time, replacing is writing another text for that character. -/
lemma replace_singleton (c : Char) (new s : List Char) :
    replace [c] new s = s.flatMap fun d => if d = c then new else [d] := by
  have hfrom : replaceFrom [c] new 0 s = s.flatMap fun d => if d = c then new else [d] := by
    induction s with
    | nil => rfl
    | cons d r ih =>
        by_cases h : d = c
        · subst h
          simp [replaceFrom, ih]
        · simp [replaceFrom, ih, h, Ne.symm h]
  rw [replace, if_neg (by simp), hfrom]

/-! ## One quoted text -/

/-- Reads a text behind its opening quote: what stands before the first mark that is not doubled,
where a doubled one stands for one, and what follows that mark. -/
def readQuoted? (mark : Char) : List Char → Option (List Char × List Char)
  | [] => none
  | [c] => if c = mark then some ([], []) else none
  | c :: d :: r =>
    if c ≠ mark then (readQuoted? mark (d :: r)).map fun read => (c :: read.1, read.2)
    else if d = mark then (readQuoted? mark r).map fun read => (mark :: read.1, read.2)
    else some ([], d :: r)

/-- A character that is not the mark belongs to the body. -/
lemma readQuoted?_cons {c : Char} (h : c ≠ mark) (s : List Char) :
    readQuoted? mark (c :: s) = (readQuoted? mark s).map fun read => (c :: read.1, read.2) := by
  cases s with
  | nil => simp [readQuoted?, h]
  | cons d r => rw [readQuoted?, if_pos h]

/-- A doubled mark is one mark of the body, and not the end. -/
lemma readQuoted?_doubled_mark (mark : Char) (s : List Char) :
    readQuoted? mark (mark :: mark :: s)
      = (readQuoted? mark s).map fun read => (mark :: read.1, read.2) := by
  simp [readQuoted?]

/-- A mark that is not doubled ends the text. -/
lemma readQuoted?_mark {rest : List Char} (h : rest.head? ≠ some mark) :
    readQuoted? mark (mark :: rest) = some ([], rest) := by
  cases rest with
  | nil => simp [readQuoted?]
  | cons d r =>
      have hd : d ≠ mark := fun heq => h (congrArg some heq)
      simp [readQuoted?, hd]

/-- **A quoted text is read back**, and no more is read than that, unless the mark itself
follows. -/
theorem readQuoted?_doubled (mark : Char) (s : List Char) {rest : List Char}
    (h : rest.head? ≠ some mark) :
    readQuoted? mark (doubled mark s ++ mark :: rest) = some (s, rest) := by
  induction s with
  | nil => exact readQuoted?_mark h
  | cons c r ih =>
      by_cases hc : c = mark
      · subst hc
        rw [doubled_cons_self, List.cons_append, List.cons_append, readQuoted?_doubled_mark, ih,
          Option.map_some]
      · rw [doubled_cons hc, List.cons_append, readQuoted?_cons hc, ih, Option.map_some]

/-- Reading a quoted text consumes at least its closing mark, so reading part after part ends. -/
lemma length_readQuoted? {s body rest : List Char} (h : readQuoted? mark s = some (body, rest)) :
    rest.length < s.length := by
  fun_induction readQuoted? mark s generalizing body with
  | case1 | case3 => cases h
  | case2 | case6 =>
      obtain ⟨-, rfl⟩ := Prod.mk.inj (Option.some.inj h)
      exact Nat.lt_succ_self _
  | case4 c d r _ ih | case5 c r _ ih =>
      obtain ⟨⟨body', rest'⟩, hread, heq⟩ := Option.map_eq_some_iff.mp h
      obtain ⟨-, rfl⟩ := Prod.mk.inj heq
      have hlength : rest'.length < _ := ih hread
      simp only [List.length_cons] at hlength ⊢
      omega

/-! ## Parts with dots between them -/

/-- Reads one part: a star, or a text between quotes. -/
def readPart? (opening closing : Char) : List Char → Option (List Char × List Char)
  | [] => none
  | c :: r =>
    if c = '*' then some (['*'], r)
    else if c = opening then readQuoted? closing r
    else none

lemma length_readPart? {s part rest : List Char}
    (h : readPart? opening closing s = some (part, rest)) : rest.length < s.length := by
  cases s with
  | nil => cases h
  | cons c r =>
      rw [readPart?] at h
      split_ifs at h
      · obtain ⟨-, rfl⟩ := Prod.mk.inj (Option.some.inj h)
        exact Nat.lt_succ_self _
      · exact Nat.lt_succ_of_lt (length_readQuoted? h)

/-- Reads parts with dots between them, to the end of the text. -/
def readParts? (opening closing : Char) (s : List Char) : Option (List (List Char)) :=
  match _h : readPart? opening closing s with
  | none => none
  | some (part, []) => some [part]
  | some (part, c :: rest) =>
    if c = '.' then (readParts? opening closing rest).map (part :: ·) else none
termination_by s.length
decreasing_by
  have := length_readPart? _h
  simp only [List.length_cons] at this
  omega

/-- A part with nothing after it is the last one. -/
lemma readParts?_last {s part : List Char} (h : readPart? opening closing s = some (part, [])) :
    readParts? opening closing s = some [part] := by
  rw [readParts?]
  split <;> simp_all

/-- After a dot the next part is read. -/
lemma readParts?_dot {s part rest : List Char}
    (h : readPart? opening closing s = some (part, '.' :: rest)) :
    readParts? opening closing s = (readParts? opening closing rest).map (part :: ·) := by
  rw [readParts?]
  split <;> simp_all

/-- **Written parts are read back** if each of them is, whatever but a closing quote follows it. -/
theorem readParts?_intercalate {α : Type} {written part : α → List Char} (hdot : closing ≠ '.')
    {parts : List α} (hparts : parts ≠ [])
    (h : ∀ a ∈ parts, ∀ rest : List Char, rest.head? ≠ some closing →
      readPart? opening closing (written a ++ rest) = some (part a, rest)) :
    readParts? opening closing (['.'].intercalate (parts.map written))
      = some (parts.map part) := by
  induction parts with
  | nil => exact absurd rfl hparts
  | cons a rest ih =>
      obtain ⟨hfirst, hrest⟩ := List.forall_mem_cons.mp h
      cases rest with
      | nil =>
          have hlast := hfirst [] (by simp)
          rw [List.append_nil] at hlast
          simpa [List.intercalate] using readParts?_last hlast
      | cons b rest =>
          have hnext := hfirst ('.' :: ['.'].intercalate ((b :: rest).map written))
            (by simpa using hdot.symm)
          have hwhole : ['.'].intercalate ((a :: b :: rest).map written)
              = written a ++ '.' :: ['.'].intercalate ((b :: rest).map written) := by
            simp [List.intercalate]
          rw [hwhole, readParts?_dot hnext, ih (List.cons_ne_nil b rest) hrest]
          rfl

end Chars

end SqlWeave
