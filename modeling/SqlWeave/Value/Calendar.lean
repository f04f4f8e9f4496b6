/-!
# Dates and times

Dates of the Gregorian calendar, also before its introduction, and times of day without a zone.  A
leap second is the second before it with `10 ^ 9` nanoseconds or more.

* `Date.text`, `DateTime.text` — the written forms.
* `DateTime.toUtc` — local fields and an offset east of Greenwich made fields at offset zero.
-/

namespace SqlWeave

/-- A date. -/
structure Date where
  year : Int
  month : Nat
  day : Nat
  deriving DecidableEq, Repr

/-- A date and a time of day. -/
structure DateTime where
  date : Date
  hour : Nat
  minute : Nat
  second : Nat
  nanos : Nat
  deriving DecidableEq, Repr

/-! ## Written forms -/

/-- A number with zeros in front of it up to a width. -/
def padded (width n : Nat) : String :=
  let digits := toString n
  String.ofList (List.replicate (width - digits.length) '0') ++ digits

/-- A year has four digits at least; outside of `0 .. 9999` it also has a sign. -/
def yearText (year : Int) : String :=
  if year < 0 then "-" ++ padded 4 year.natAbs
  else if 9999 < year then "+" ++ toString year.natAbs
  else padded 4 year.natAbs

/-- Year, month and day with hyphens between them. -/
def Date.text (d : Date) : String :=
  yearText d.year ++ "-" ++ padded 2 d.month ++ "-" ++ padded 2 d.day

/-- The fraction of a second in thousandths, millionths or billionths, whichever is the coarsest
that is exact; nothing for a whole second. -/
def fractionText (nanos : Nat) : String :=
  if nanos = 0 then ""
  else if nanos % 1000000 = 0 then "." ++ padded 3 (nanos / 1000000)
  else if nanos % 1000 = 0 then "." ++ padded 6 (nanos / 1000)
  else "." ++ padded 9 nanos

/-- Date and time of day with a blank between them; a leap second is the sixtieth. -/
def DateTime.text (t : DateTime) : String :=
  t.date.text ++ " " ++ padded 2 t.hour ++ ":" ++ padded 2 t.minute ++ ":"
    ++ padded 2 (t.second + t.nanos / 1000000000) ++ fractionText (t.nanos % 1000000000)

/-! ## Offsets -/

/-- Whether a year has a leap day. -/
def isLeapYear (year : Int) : Bool :=
  year % 4 = 0 && (year % 100 ≠ 0 || year % 400 = 0)

/-- The number of days of a month. -/
def daysInMonth (year : Int) (month : Nat) : Nat :=
  if month = 2 then (if isLeapYear year then 29 else 28)
  else if month = 4 ∨ month = 6 ∨ month = 9 ∨ month = 11 then 30
  else 31

/-- The day after. -/
def Date.next (d : Date) : Date :=
  if d.day < daysInMonth d.year d.month then { d with day := d.day + 1 }
  else if d.month < 12 then ⟨d.year, d.month + 1, 1⟩
  else ⟨d.year + 1, 1, 1⟩

/-- The day before. -/
def Date.previous (d : Date) : Date :=
  if 1 < d.day then { d with day := d.day - 1 }
  else if 1 < d.month then ⟨d.year, d.month - 1, daysInMonth d.year (d.month - 1)⟩
  else ⟨d.year - 1, 12, 31⟩

/-- The fields at offset zero of local fields `offset` seconds east, the offset being less than a
day.  Nanoseconds, those of a leap second included, stay as they are. -/
def DateTime.toUtc (t : DateTime) (offset : Int) : DateTime :=
  let clock : Int := (t.hour * 3600 + t.minute * 60 + t.second : Nat)
  let seconds := clock - offset
  let date := if seconds < 0 then t.date.previous
    else if 86400 ≤ seconds then t.date.next else t.date
  let inDay := (seconds % 86400).toNat
  ⟨date, inDay / 3600, inDay / 60 % 60, inDay % 60, t.nanos⟩

end SqlWeave
