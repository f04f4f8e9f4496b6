/-!
# Blanks

Which characters count as blank, and texts freed of the blanks around them.  Keywords, directions,
driver names and the fragments of a statement are all compared or joined after such a trim.

* `isBlank` — the Unicode property White_Space.
* `Chars.trim`, `Text.trim` — a text without the blanks before its first and after its last
  other character.
-/

namespace SqlWeave

/-! ## The class -/

/-- The characters with the Unicode property White_Space: the ASCII blanks, the next-line control,
the no-break space, and the separators of the general punctuation, ogham and ideographic blocks. -/
def isBlank (c : Char) : Bool :=
  ('\x09' ≤ c && c ≤ '\x0d') || c == ' ' || c == '\u0085' || c == '\u00a0' || c == '\u1680' ||
    ('\u2000' ≤ c && c ≤ '\u200a') || c == '\u2028' || c == '\u2029' || c == '\u202f' ||
    c == '\u205f' || c == '\u3000'

/-! ## Trimming -/

namespace Chars

/-- Drops the leading blanks. -/
def trimStart (s : List Char) : List Char :=
  s.dropWhile isBlank

/-- Drops the trailing blanks: a character stays if it is not blank or something after it stays. -/
def trimEnd : List Char → List Char
  | [] => []
  | c :: r =>
    match trimEnd r with
    | [] => if isBlank c then [] else [c]
    | d :: t => c :: d :: t

/-- Drops the blanks on both sides. -/
def trim (s : List Char) : List Char :=
  trimEnd (trimStart s)

end Chars

namespace Text

/-- Drops the blanks on both sides of a string. -/
def trim (s : String) : String :=
  String.ofList (Chars.trim s.toList)

@[simp] theorem toList_trim (s : String) : (trim s).toList = Chars.trim s.toList := by
  simp [trim]

end Text

end SqlWeave
