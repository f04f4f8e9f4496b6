import SqlWeave.Config.Setting
import SqlWeave.Config.Toml.Moment

/-!
# Plain words of a TOML document

What is written without quotes: truth values, numbers, dates and times.

* `Toml.word` — the extent of a word.
* `Toml.plain?` — its value.
-/

namespace SqlWeave

namespace Toml

/-! ## Numbers -/

/-- Digits of a class with single underscores between them. -/
def digitsWith? (isDigit : Char → Bool) (s : List Char) : Option (List Char) :=
  let groups := Chars.pieces '_' s
  if groups.all fun g => !g.isEmpty && g.all isDigit then some groups.flatten else none

/-- The value of digits to a base. -/
def valueIn (base : Nat) (digits : List Char) : Nat :=
  digits.foldl (fun n c => n * base + (Chars.hexValue? c).getD 0) 0

/-- Decimal digits without a leading zero. -/
def decimal? (s : List Char) : Option Nat :=
  (digitsWith? Char.isDigit s).bind fun digits =>
    if 1 < digits.length ∧ digits.head? = some '0' then none else some (valueIn 10 digits)

/-- A whole number. -/
def whole? : List Char → Option Int
  | '0' :: 'x' :: r =>
    (digitsWith? (fun c => (Chars.hexValue? c).isSome) r).map fun ds => (valueIn 16 ds : Int)
  | '0' :: 'o' :: r =>
    (digitsWith? (fun c => '0' ≤ c && c ≤ '7') r).map fun ds => (valueIn 8 ds : Int)
  | '0' :: 'b' :: r =>
    (digitsWith? (fun c => c == '0' || c == '1') r).map fun ds => (valueIn 2 ds : Int)
  | '-' :: r => (decimal? r).map fun n => -(n : Int)
  | '+' :: r => (decimal? r).map fun n => (n : Int)
  | s => (decimal? s).map fun n => (n : Int)

/-- Drops a sign. -/
def unsigned : List Char → List Char
  | '-' :: r => r
  | '+' :: r => r
  | s => s

/-- Whether this is the part of a number after its `e`. -/
def isExponent (s : List Char) : Bool :=
  (digitsWith? Char.isDigit (unsigned s)).isSome

/-- Whether a word names what is no finite number. -/
def isSpecial (s : List Char) : Bool :=
  unsigned s = ['i', 'n', 'f'] || unsigned s = ['n', 'a', 'n']

/-- Whether a word is a number with a point or an exponent. -/
def isFraction (s : List Char) : Bool :=
  let number := (unsigned s).takeWhile fun c => c ≠ 'e' && c ≠ 'E'
  let exponent := (unsigned s).dropWhile fun c => c ≠ 'e' && c ≠ 'E'
  let exponentFits := exponent.isEmpty || isExponent (exponent.drop 1)
  match Chars.pieces '.' number with
  | [n] => !exponent.isEmpty && exponentFits && (decimal? n).isSome
  | [n, places] =>
    exponentFits && (decimal? n).isSome && (digitsWith? Char.isDigit places).isSome
  | _ => false

/-- Whether the double nearest to a number with a point or an exponent is finite. -/
def fractionFits (s : List Char) : Bool :=
  (Double.ofText? (String.ofList (s.filter (· ≠ '_')))).any Double.isFinite

/-! ## Words -/

/-- Whether a character may stand in a key without quotes. -/
def isKeyChar (c : Char) : Bool :=
  ('a' ≤ c && c ≤ 'z') || ('A' ≤ c && c ≤ 'Z') || c.isDigit || c == '_' || c == '-'

/-- Whether a character may stand in a plain word. -/
def isWordChar (c : Char) : Bool :=
  isKeyChar c || c == '+' || c == '.' || c == ':'

/-- A plain word; after a date, a blank may stand before the time. -/
def word (s : List Char) : List Char × List Char :=
  let first := s.takeWhile isWordChar
  match s.dropWhile isWordChar with
  | ' ' :: c :: r =>
    if isDate first ∧ c.isDigit then
      (first ++ ' ' :: (c :: r).takeWhile isWordChar, (c :: r).dropWhile isWordChar)
    else (first, ' ' :: c :: r)
  | r => (first, r)

/-- The name under which a moment is handed on. -/
def momentName : String :=
  "$__toml_private_datetime"

/-- The value of a plain word.  Whole numbers need 128 bits at most, with a sign or without; a
moment is a table with its text as the only entry. -/
def plain? (w : List Char) : Option Setting :=
  if w = "true".toList then some (.flag true)
  else if w = "false".toList then some (.flag false)
  else if isSpecial w then some .other
  else if isFraction w then some (if fractionFits w then .other else .beyond)
  else
    match whole? w with
    | some n => some (if -Int.pow 2 127 ≤ n ∧ n < Int.pow 2 128 then .whole n else .beyond)
    | none => (moment? w).map fun text => .table [(momentName, .text (String.ofList text))]

end Toml

end SqlWeave
