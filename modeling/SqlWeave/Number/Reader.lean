import SqlWeave.Number.Binary

/-!
# Reading numbers

* `Text.int64?` — an optional sign and digits, within 64 bits.
* `DecimalText.read?` — a decimal with optional sign, point and exponent.
* `Double.ofText?`, `Double.ofSingleText?` — the nearest number of either precision.
-/

namespace SqlWeave

namespace Chars

/-- The value of a string of decimal digits. -/
def digitsValue (s : List Char) : Nat :=
  s.foldl (fun n c => n * 10 + (c.toNat - '0'.toNat)) 0

/-- The value of a string that is nothing but decimal digits, and not empty. -/
def nat? (s : List Char) : Option Nat :=
  if s.isEmpty ∨ ¬ s.all Char.isDigit then none else some (digitsValue s)

/-- The value of an optional sign followed by digits. -/
def int? : List Char → Option Int
  | '-' :: r => (nat? r).map fun n => -(n : Int)
  | '+' :: r => (nat? r).map fun n => (n : Int)
  | s => (nat? s).map fun n => (n : Int)

/-- The value of an optional sign and digits, if it fits into 64 bits with a sign. -/
def int64? (s : List Char) : Option Int :=
  (int? s).filter fun n => -Int.pow 2 63 ≤ n && n < Int.pow 2 63

end Chars

/-! ## Decimals -/

/-- A written decimal: a sign and `digits * 10 ^ power`. -/
structure DecimalText where
  negative : Bool
  digits : Nat
  power : Int
  deriving DecidableEq, Repr

namespace DecimalText

/-- Splits off a sign. -/
def sign : List Char → Bool × List Char
  | '-' :: r => (true, r)
  | '+' :: r => (false, r)
  | s => (false, s)

/-- The value of what follows the digits: nothing, or a mark and a whole number. -/
def exponent? : List Char → Option Int
  | [] => some 0
  | c :: r => if c = 'e' ∨ c = 'E' then Chars.int? r else none

/-- Digits with at most one point among them and at least one digit, then an optional exponent. -/
def read? (s : List Char) : Option DecimalText :=
  let (negative, s) := sign s
  let whole := s.takeWhile Char.isDigit
  let s := s.dropWhile Char.isDigit
  let (places, s) := match s with
    | '.' :: r => (r.takeWhile Char.isDigit, r.dropWhile Char.isDigit)
    | r => ([], r)
  if whole.isEmpty ∧ places.isEmpty then none
  else (exponent? s).map fun e =>
    ⟨negative, Chars.digitsValue (whole ++ places), e - places.length⟩

/-- The quotient that a decimal stands for.  A power beyond a thousand on either side decides the
result on its own, so it is cut there, together with the digits that could balance it. -/
def toQuotient (d : DecimalText) : Quotient :=
  let length := (Nat.log2 d.digits : Int)
  if d.digits = 0 then ⟨0, 1⟩
  else if 0 ≤ d.power then ⟨d.digits * Nat.pow 10 (min d.power 1000).toNat, 1⟩
  else ⟨d.digits, Nat.pow 10 (min (-d.power) (length + 1000)).toNat⟩

end DecimalText

namespace Double

/-- The names of what is not finite, in any case. -/
def special? (s : List Char) : Option Double :=
  let (negative, name) := DecimalText.sign s
  let name := String.ofList (name.map Char.toLower)
  if name = "inf" ∨ name = "infinity" then some (infinity negative)
  else if name = "nan" then some nan
  else none

/-- The double nearest to a written decimal. -/
def ofText? (s : String) : Option Double :=
  (special? s.toList).or
    ((DecimalText.read? s.toList).map fun d => ofQuotient d.negative d.toQuotient)

/-- The single-precision number nearest to a written decimal, as a double. -/
def ofSingleText? (s : String) : Option Double :=
  (special? s.toList).or
    ((DecimalText.read? s.toList).map fun d => ofSingleQuotient d.negative d.toQuotient)

end Double

end SqlWeave
