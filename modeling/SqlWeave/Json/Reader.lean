import SqlWeave.Json.Basic
import SqlWeave.Number.Reader

/-!
# Reading JSON

A text is read in two steps.  `JsonText` is what was written: numbers as lexemes, object fields in
order and with repetitions, and strings that may hold half of a surrogate pair.  What is skipped by
its reader need not mean anything, so meaning is given only in the second step.

* `JsonText.read?` — the value that makes up a whole text.
* `JsonNumber.value?` — the number of a lexeme: exact if whole and within 64 bits, else a double
  that is the significand times or divided by a power of ten.
* `Json.ofText?` — the JSON value of a text.
-/

namespace SqlWeave

/-! ## What is written -/

/-- A number as written: `whole.places` and an exponent, if there is one. -/
structure JsonNumber where
  negative : Bool
  whole : List Char
  places : Option (List Char)
  exponent : Option (Bool × List Char)

/-- A value as written.  A string is `none` if one of its escapes is half of a surrogate pair. -/
inductive JsonText where
  | null
  | bool (value : Bool)
  | number (value : JsonNumber)
  | text (value : Option String)
  | list (items : List JsonText)
  | object (fields : List (Option String × JsonText))

namespace JsonText

/-- Skips the four blanks of JSON. -/
def skip (s : List Char) : List Char :=
  s.dropWhile fun c => c == ' ' || c == '\n' || c == '\t' || c == '\r'

/-! ## Strings -/

/-- One step of a string: a code unit from an escape or a character as it stands. -/
inductive CodeUnit where
  | char (value : Char)
  | half (value : Nat)

/-- The character that a one-letter escape stands for. -/
def escape? (c : Char) : Option Char :=
  if c = '"' ∨ c = '\\' ∨ c = '/' then some c
  else if c = 'b' then some '\x08'
  else if c = 'f' then some '\x0c'
  else if c = 'n' then some '\n'
  else if c = 'r' then some '\r'
  else if c = 't' then some '\t'
  else none

/-- The unit of a four-digit escape. -/
def unit (n : Nat) : CodeUnit :=
  if 0xd800 ≤ n ∧ n < 0xe000 then .half n else .char (Char.ofNat n)

/-- Reads the inside of a string up to and with its closing quote. -/
def units? : List Char → Option (List CodeUnit × List Char)
  | [] => none
  | '"' :: r => some ([], r)
  | '\\' :: 'u' :: a :: b :: c :: d :: r =>
    match Chars.hexRead? [a, b, c, d], units? r with
    | some n, some (us, rest) => some (unit n :: us, rest)
    | _, _ => none
  | '\\' :: c :: r =>
    match escape? c, units? r with
    | some e, some (us, rest) => some (.char e :: us, rest)
    | _, _ => none
  | c :: r =>
    if c < ' ' ∨ c = '\\' then none
    else (units? r).map fun (us, rest) => (.char c :: us, rest)

/-- Joins the halves of surrogate pairs; a half without its other half has no meaning. -/
def joinHalves : List CodeUnit → Option (List Char)
  | [] => some []
  | .char c :: r => (joinHalves r).map (c :: ·)
  | .half h :: .half l :: r =>
    if h < 0xdc00 ∧ 0xdc00 ≤ l then
      (joinHalves r).map (Char.ofNat (0x10000 + (h - 0xd800) * 0x400 + (l - 0xdc00)) :: ·)
    else none
  | .half _ :: _ => none

/-- Reads a string whose opening quote is already gone. -/
def string? (s : List Char) : Option (Option String × List Char) :=
  (units? s).map fun (us, rest) => ((joinHalves us).map String.ofList, rest)

/-! ## Numbers -/

/-- Reads digits, at least one. -/
def digits? (s : List Char) : Option (List Char × List Char) :=
  let digits := s.takeWhile Char.isDigit
  if digits.isEmpty then none else some (digits, s.dropWhile Char.isDigit)

/-- Reads an exponent if its mark stands here. -/
def exponent? : List Char → Option (Option (Bool × List Char) × List Char)
  | c :: r =>
    if c = 'e' ∨ c = 'E' then
      let (negative, r) := match r with
        | '-' :: r => (true, r)
        | '+' :: r => (false, r)
        | r => (false, r)
      (digits? r).map fun (digits, rest) => (some (negative, digits), rest)
    else some (none, c :: r)
  | [] => some (none, [])

/-- Reads places after a point if it stands here. -/
def places? : List Char → Option (Option (List Char) × List Char)
  | '.' :: r => (digits? r).map fun (digits, rest) => (some digits, rest)
  | r => some (none, r)

/-- Reads a number: no zero stands before another digit. -/
def number? (s : List Char) : Option (JsonNumber × List Char) := do
  let (negative, s) := match s with
    | '-' :: r => (true, r)
    | r => (false, r)
  let (whole, s) ← digits? s
  if whole.length > 1 ∧ whole.head? = some '0' then none
  else
    let (places, s) ← places? s
    let (exponent, s) ← exponent? s
    pure (⟨negative, whole, places, exponent⟩, s)

/-- Reads a fixed word. -/
def word? (word : String) (value : JsonText) (s : List Char) : Option (JsonText × List Char) :=
  if word.toList.isPrefixOf s then some (value, s.drop word.length) else none

/-! ## Values

Each call takes at least one character, so the length of the text is fuel enough. -/

mutual

/-- Reads one value and returns what follows it. -/
def value? : Nat → List Char → Option (JsonText × List Char)
  | 0, _ => none
  | fuel + 1, s =>
    match skip s with
    | [] => none
    | '"' :: r => (string? r).map fun (s, rest) => (.text s, rest)
    | '[' :: r =>
      match skip r with
      | ']' :: r => some (.list [], r)
      | r => (items? fuel r).map fun (items, rest) => (.list items, rest)
    | '{' :: r =>
      match skip r with
      | '}' :: r => some (.object [], r)
      | r => (fields? fuel r).map fun (fields, rest) => (.object fields, rest)
    | 'n' :: r => word? "null" .null ('n' :: r)
    | 't' :: r => word? "true" (.bool true) ('t' :: r)
    | 'f' :: r => word? "false" (.bool false) ('f' :: r)
    | r => (number? r).map fun (n, rest) => (.number n, rest)

/-- Reads the items of a list up to and with its closing bracket. -/
def items? : Nat → List Char → Option (List JsonText × List Char)
  | 0, _ => none
  | fuel + 1, s =>
    match value? fuel s with
    | none => none
    | some (item, s) =>
      match skip s with
      | ']' :: r => some ([item], r)
      | ',' :: r => (items? fuel r).map fun (items, rest) => (item :: items, rest)
      | _ => none

/-- Reads the fields of an object up to and with its closing brace. -/
def fields? : Nat → List Char → Option (List (Option String × JsonText) × List Char)
  | 0, _ => none
  | fuel + 1, s =>
    match skip s with
    | '"' :: r =>
      match string? r with
      | none => none
      | some (name, r) =>
        match skip r with
        | ':' :: r =>
          match value? fuel r with
          | none => none
          | some (item, s) =>
            match skip s with
            | '}' :: r => some ([(name, item)], r)
            | ',' :: r => (fields? fuel r).map fun (fields, rest) => ((name, item) :: fields, rest)
            | _ => none
        | _ => none
    | _ => none

end

/-- Reads a text that is one value between blanks. -/
def read? (s : String) : Option JsonText :=
  match value? (s.length + 1) s.toList with
  | some (v, rest) => if (skip rest).isEmpty then some v else none
  | none => none

end JsonText

/-! ## The numbers meant -/

namespace JsonNumber

/-- The significand of a lexeme: leading digits are taken while it fits into 64 bits, later ones
count only as a power of ten if they stand before the point. -/
structure Significand where
  value : Nat
  power : Int
  full : Bool

/-- Takes the digits before the point. -/
def Significand.takeWhole (x : Significand) (c : Char) : Significand :=
  let next := x.value * 10 + (c.toNat - '0'.toNat)
  if x.full ∨ Nat.pow 2 64 ≤ next then ⟨x.value, x.power + 1, true⟩ else ⟨next, x.power, false⟩

/-- Takes the digits after the point, until one does not fit. -/
def Significand.takePlace (x : Significand) (c : Char) : Significand :=
  let next := x.value * 10 + (c.toNat - '0'.toNat)
  if x.full ∨ Nat.pow 2 64 ≤ next then ⟨x.value, x.power, true⟩ else ⟨next, x.power - 1, false⟩

/-- Divides by `10 ^ 308` until the power left is at least `-308`. -/
def lowerPower : Nat → Double → Int → Double × Int
  | 0, x, power => (x, power)
  | fuel + 1, x, power =>
    if x.magnitude = 0 ∨ -308 ≤ power then (x, power)
    else lowerPower fuel (x.dividedBy (Double.ofNat (Nat.pow 10 308))) (power + 308)

/-- A significand times a power of ten, in two roundings; `none` if the result is too large. -/
def scale? (significand : Nat) (power : Int) : Option Double :=
  let x := Double.ofNat significand
  if power < 0 then
    let (x, power) := lowerPower 4 x power
    if x.magnitude = 0 then some x
    else some (x.dividedBy (Double.ofNat (Nat.pow 10 (-power).toNat)))
  else if 308 < power then if x.magnitude = 0 then some x else none
  else
    let x := x.times (Double.ofNat (Nat.pow 10 power.toNat))
    if x.isFinite then some x else none

/-- The number of a lexeme, or `none` if it is too large for a double. -/
def value? (n : JsonNumber) : Option Json :=
  let whole := n.whole.foldl Significand.takeWhole ⟨0, 0, false⟩
  match n.places, n.exponent with
  | none, none =>
    if whole.full then (signed (scale? whole.value whole.power))
    else if n.negative then
      if whole.value = 0 ∨ Nat.pow 2 63 < whole.value then signed (some (Double.ofNat whole.value))
      else some (.whole (-(whole.value : Int)))
    else some (.whole whole.value)
  | places, exponent =>
    let taken := (places.getD []).foldl Significand.takePlace ⟨whole.value, whole.power, false⟩
    match exponent with
    | none => signed (scale? taken.value taken.power)
    | some (down, digits) =>
      let e := Chars.digitsValue digits
      if Nat.pow 2 31 ≤ e then
        if taken.value ≠ 0 ∧ ¬ down then none else signed (some (Double.ofNat 0))
      else signed (scale? taken.value (if down then taken.power - e else taken.power + e))
where
  /-- The double with the sign of the lexeme. -/
  signed (x : Option Double) : Option Json :=
    x.map fun x => .float (if n.negative then x.negate else x)

/-- The natural number of 64 bits that a lexeme without sign, point and exponent writes. -/
def nat? (n : JsonNumber) : Option Nat :=
  match n.value? with
  | some (.whole k) => if 0 ≤ k then some k.toNat else none
  | _ => none

end JsonNumber

/-! ## The values meant -/

namespace JsonText

mutual

/-- The JSON value of what is written: no half of a surrogate pair, no number out of range. -/
def meaning? : JsonText → Option Json
  | .null => some .null
  | .bool b => some (.bool b)
  | .number n => n.value?
  | .text s => s.map .text
  | .list items => (meanings? items).map .list
  | .object fields => (fieldMeanings? fields).map Json.ofFields

/-- The values of the items of a list. -/
def meanings? : List JsonText → Option (List Json)
  | [] => some []
  | t :: r =>
    match meaning? t, meanings? r with
    | some v, some vs => some (v :: vs)
    | _, _ => none

/-- The names and values of the fields of an object. -/
def fieldMeanings? : List (Option String × JsonText) → Option (List (String × Json))
  | [] => some []
  | (name, t) :: r =>
    match name, meaning? t, fieldMeanings? r with
    | some n, some v, some vs => some ((n, v) :: vs)
    | _, _, _ => none

end

end JsonText

/-- The JSON value of a text. -/
def Json.ofText? (s : String) : Option Json :=
  (JsonText.read? s).bind JsonText.meaning?

end SqlWeave
