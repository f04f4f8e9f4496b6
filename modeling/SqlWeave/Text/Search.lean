/-!
# Cutting, splitting and replacing

The few searches that names and statements need, each by recursion on the characters.

* `Chars.cut?` — the two sides of the first place where a text stands.
* `Chars.cutLast?` — the two sides of the last place where a character stands.
* `Chars.pieces` — what stands between the occurrences of a character.
* `Chars.arrowPieces` — what stands between the arrows of a path.
* `Chars.replace` — every occurrence exchanged, from the left and without overlap.
-/

namespace SqlWeave

namespace Chars

/-! ## Two sides -/

/-- The text before and the text after the first occurrence of `mark`. -/
def cut? (mark : List Char) : List Char → Option (List Char × List Char)
  | [] => if mark.isEmpty then some ([], []) else none
  | c :: r =>
    if mark.isPrefixOf (c :: r) then some ([], (c :: r).drop mark.length)
    else (cut? mark r).map fun sides => (c :: sides.1, sides.2)

/-- The text before and the text after the last occurrence of `mark`. -/
def cutLast? (mark : Char) : List Char → Option (List Char × List Char)
  | [] => none
  | c :: r =>
    match cutLast? mark r with
    | some sides => some (c :: sides.1, sides.2)
    | none => if c = mark then some ([], r) else none

/-! ## Pieces -/

/-- Puts a character in front of the first piece. -/
def consFirst (c : Char) : List (List Char) → List (List Char)
  | [] => [[c]]
  | p :: ps => (c :: p) :: ps

/-- The pieces between the occurrences of `mark`; there is always at least one. -/
def pieces (mark : Char) : List Char → List (List Char)
  | [] => [[]]
  | c :: r => if c = mark then [] :: pieces mark r else consFirst c (pieces mark r)

/-- The pieces between the arrows; there is always at least one. -/
def arrowPieces : List Char → List (List Char)
  | '-' :: '>' :: r => [] :: arrowPieces r
  | c :: r => consFirst c (arrowPieces r)
  | [] => [[]]

/-- Whether an arrow stands anywhere. -/
def hasArrow : List Char → Bool
  | '-' :: '>' :: _ => true
  | _ :: r => hasArrow r
  | [] => false

/-! ## Replacing -/

/-- Exchanges `old` for `new`, where the next `skip` characters belong to an occurrence that has
been exchanged already. -/
def replaceFrom (old new : List Char) : Nat → List Char → List Char
  | _, [] => []
  | skip + 1, _ :: r => replaceFrom old new skip r
  | 0, c :: r =>
    if old.isPrefixOf (c :: r) then new ++ replaceFrom old new (old.length - 1) r
    else c :: replaceFrom old new 0 r

/-- Exchanges every occurrence of `old` for `new`; an empty `old` occurs nowhere. -/
def replace (old new s : List Char) : List Char :=
  if old.isEmpty then s else replaceFrom old new 0 s

/-- Writes every single quote twice. -/
def doubleQuotes (s : List Char) : List Char :=
  s.flatMap fun c => if c = '\'' then ['\'', '\''] else [c]

end Chars

/-! ## On strings -/

namespace Text

/-- The two sides of the first occurrence of `mark`. -/
def cut? (mark s : String) : Option (String × String) :=
  (Chars.cut? mark.toList s.toList).map fun sides =>
    (String.ofList sides.1, String.ofList sides.2)

/-- The two sides of the last occurrence of `mark`. -/
def cutLast? (mark : Char) (s : String) : Option (String × String) :=
  (Chars.cutLast? mark s.toList).map fun sides =>
    (String.ofList sides.1, String.ofList sides.2)

/-- The pieces between the occurrences of `mark`. -/
def pieces (mark : Char) (s : String) : List String :=
  (Chars.pieces mark s.toList).map String.ofList

/-- The pieces between the arrows. -/
def arrowPieces (s : String) : List String :=
  (Chars.arrowPieces s.toList).map String.ofList

/-- Whether an arrow stands anywhere. -/
def hasArrow (s : String) : Bool :=
  Chars.hasArrow s.toList

/-- Exchanges every occurrence of `old` for `new`. -/
def replace (old new s : String) : String :=
  String.ofList (Chars.replace old.toList new.toList s.toList)

/-- Writes every single quote twice. -/
def doubleQuotes (s : String) : String :=
  String.ofList (Chars.doubleQuotes s.toList)

/-- Lowers the ASCII letters and leaves all else. -/
def lower (s : String) : String :=
  String.ofList (s.toList.map Char.toLower)

end Text

end SqlWeave
