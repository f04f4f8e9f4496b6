import SqlWeave.Number.Reader
import SqlWeave.Text.Search
import SqlWeave.Value.Calendar

/-!
# Moments of a TOML document

A moment is a date, a time of day, or a date with a time of day and perhaps an offset from
universal time.  It can be written in several ways, of which one is chosen when it is handed on.

* `Toml.moment?` — the chosen form of a moment.
-/

namespace SqlWeave

namespace Toml

/-- A number of so many digits between two bounds. -/
def within (width least most : Nat) (s : List Char) : Bool :=
  s.length = width && s.all Char.isDigit && least ≤ Chars.digitsValue s
    && Chars.digitsValue s ≤ most

/-- Whether this is a date. -/
def isDate (s : List Char) : Bool :=
  match Chars.pieces '-' s with
  | [y, m, d] =>
    within 4 0 9999 y && within 2 1 12 m
      && within 2 1 (daysInMonth (Chars.digitsValue y : Int) (Chars.digitsValue m)) d
  | _ => false

/-- The fraction of a second: nine digits count, and zeros at their end are not written. -/
def secondFraction (digits : List Char) : List Char :=
  match ((digits.take 9).reverse.dropWhile (· == '0')).reverse with
  | [] => []
  | ds => '.' :: ds

/-- The seconds of a time of day, with or without a fraction. -/
def seconds? (s : List Char) : Option (List Char) :=
  match Chars.pieces '.' s with
  | [whole] => if within 2 0 60 whole then some whole else none
  | [whole, digits] =>
    if within 2 0 60 whole ∧ ¬ digits.isEmpty ∧ digits.all Char.isDigit then
      some (whole ++ secondFraction digits)
    else none
  | _ => none

/-- Whether these are the hours and minutes of a time of day. -/
def isHourMinute (hour minute : List Char) : Bool :=
  within 2 0 23 hour && within 2 0 59 minute

/-- A time of day; seconds may be missing and are written all the same. -/
def clock? (s : List Char) : Option (List Char) :=
  match Chars.pieces ':' s with
  | [h, m] => if isHourMinute h m then some (s ++ [':', '0', '0']) else none
  | [h, m, seconds] =>
    if isHourMinute h m then (seconds? seconds).map fun sec => h ++ ':' :: m ++ ':' :: sec
    else none
  | _ => none

/-- An offset: the letter of universal time, or a sign with hours and minutes; what is no offset at
all has a plus sign. -/
def offset? : List Char → Option (List Char)
  | ['Z'] => some ['Z']
  | ['z'] => some ['Z']
  | sign :: r =>
    match Chars.pieces ':' r with
    | [h, m] =>
      if (sign = '+' ∨ sign = '-') ∧ isHourMinute h m then
        let isZero := Chars.digitsValue h = 0 ∧ Chars.digitsValue m = 0
        some ((if isZero then '+' else sign) :: r)
      else none
    | _ => none
  | [] => none

/-- A time of day with or without an offset. -/
def clockWithOffset? (s : List Char) : Option (List Char) :=
  let isClockChar := fun c : Char => c.isDigit || c == ':' || c == '.'
  match clock? (s.takeWhile isClockChar), s.dropWhile isClockChar with
  | some clock, [] => some clock
  | some clock, r => (offset? r).map (clock ++ ·)
  | none, _ => none

/-- A moment.  Between a date and a time of day stands a `T` of either case or a blank. -/
def moment? (s : List Char) : Option (List Char) :=
  match clock? s with
  | some clock => some clock
  | none =>
    let date := s.take 10
    if isDate date then
      match s.drop 10 with
      | [] => some date
      | c :: r =>
        if c = 'T' ∨ c = 't' ∨ c = ' ' then (clockWithOffset? r).map fun t => date ++ 'T' :: t
        else none
    else none

end Toml

end SqlWeave
