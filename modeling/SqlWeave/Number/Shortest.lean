import SqlWeave.Number.Binary

/-!
# Shortest decimals

The text of a double has the fewest significant digits that still read back as that double, and of
two such digit strings the one nearer to it.

* `Decimal` — `digits * 10 ^ power`.
* `Double.shortest` — the shortest decimal of a positive finite double.
* `Double.plainText` — the decimal written out in full, whatever its size.
* `Double.compactText` — the decimal with at least one place, and with an exponent where it is
  very large or very small.
-/

namespace SqlWeave

/-! ## Decimals -/

/-- The magnitude `digits * 10 ^ power`. -/
structure Decimal where
  digits : Nat
  power : Int
  deriving DecidableEq, Repr

/-- Which way a number goes that lies midway between two decimals of the least length. -/
inductive Tie where
  | up
  | even
  deriving DecidableEq, Repr

/-- The quotient divided by `10 ^ power`. -/
def Quotient.shiftTen (x : Quotient) (power : Int) : Quotient :=
  if 0 ≤ power then ⟨x.num, x.den * Nat.pow 10 power.toNat⟩
  else ⟨x.num * Nat.pow 10 (-power).toNat, x.den⟩

/-- The number of decimal digits of the whole part of a quotient that is at least one; for a smaller
one, how many places its first digit stands after the point, counted down from zero. -/
def Quotient.decimalExponent (x : Quotient) : Int :=
  let guess : Int := (((x.num.log2 : Int) - x.den.log2 - 1) * 30103).fdiv 100000
  let up (k : Int) : Int :=
    let y := x.shiftTen k
    if y.den ≤ y.num then k + 1 else k
  up (up (up guess))

namespace Double

/-- Four times the magnitude and the two ends of the numbers that round to it, over one power of
two: the lower end lies only half as far below the least number of a binary scale. -/
def interval (x : Scaled) : Scaled × Scaled × Scaled :=
  let power := x.power - 2
  let low := if x.digits = Nat.pow 2 52 ∧ leastPower < x.power then 4 * x.digits - 1
    else 4 * x.digits - 2
  (⟨4 * x.digits, power⟩, ⟨low, power⟩, ⟨4 * x.digits + 2, power⟩)

/-- Whether `n * 10 ^ power` reads back as `x`: the ends of the interval count if and only if the
digits of `x` are even. -/
def readsBack (x : Scaled) (n : Nat) (power : Int) : Bool :=
  let (_, low, high) := interval x
  let low := low.toQuotient.shiftTen power
  let high := high.toQuotient.shiftTen power
  if x.digits % 2 = 0 then low.num ≤ n * low.den && n * high.den ≤ high.num
  else low.num < n * low.den && n * high.den < high.num

/-- The decimal with last place `power` that reads back as `x`, if there is one: of the two
neighbours of `x` on that grid the nearer, if both do. -/
def onGrid? (tie : Tie) (x : Scaled) (power : Int) : Option Decimal :=
  let exact := x.toQuotient.shiftTen power
  let below := exact.num / exact.den
  let rest := 2 * (exact.num % exact.den)
  let upper := exact.den < rest || (exact.den = rest && (tie = .up || below % 2 = 1))
  match readsBack x below power, readsBack x (below + 1) power with
  | true, true => some ⟨if upper then below + 1 else below, power⟩
  | true, false => some ⟨below, power⟩
  | false, true => some ⟨below + 1, power⟩
  | false, false => none

/-- The first grid with a hit, from one significant digit to seventeen, which are always enough. -/
def shortestScaled (tie : Tie) (x : Scaled) : Decimal :=
  let exponent := x.toQuotient.decimalExponent
  let grids := (List.range 17).map fun (n : Nat) => exponent - 1 - (n : Int)
  (grids.findSome? (onGrid? tie x)).getD ⟨0, 0⟩

/-- Drops the zeros at the end of the digits. -/
def stripZeros : Nat → Decimal → Decimal
  | 0, d => d
  | n + 1, d =>
    if d.digits ≠ 0 ∧ d.digits % 10 = 0 then stripZeros n ⟨d.digits / 10, d.power + 1⟩ else d

/-- The shortest decimal that reads back as a finite double other than zero, without its sign. -/
def shortest (tie : Tie) (x : Double) : Decimal :=
  stripZeros 20 (shortestScaled tie x.toScaled)

end Double

/-! ## Writing -/

namespace Decimal

/-- A number of zeros. -/
def zeros (n : Nat) : String :=
  String.ofList (List.replicate n '0')

/-- A decimal written out with a point where it has places. -/
def positional (d : Decimal) : String :=
  let digits := toString d.digits
  if 0 ≤ d.power then digits ++ zeros d.power.toNat
  else
    let places := (-d.power).toNat
    if places < digits.length then
      String.ofList (digits.toList.take (digits.length - places)) ++ "."
        ++ String.ofList (digits.toList.drop (digits.length - places))
    else "0." ++ zeros (places - digits.length) ++ digits

/-- A decimal with one digit before the point and a signed exponent. -/
def scientific (d : Decimal) : String :=
  let digits := (toString d.digits).toList
  let exponent := d.power + digits.length - 1
  let places := digits.drop 1
  String.ofList (digits.take 1) ++ (if places.isEmpty then "" else "." ++ String.ofList places)
    ++ "e" ++ (if exponent < 0 then "-" else "+") ++ toString exponent.natAbs

end Decimal

namespace Double

/-- The sign that is written before the digits. -/
def signText (x : Double) : String :=
  if x.isNegative then "-" else ""

/-- Every digit is written out and a whole number has no point; what is midway between two
decimals goes up. -/
def plainText (x : Double) : String :=
  if x.isFinite then
    signText x ++ (if x.magnitude = 0 then "0" else (shortest .up x).positional)
  else if x.isInfinite then signText x ++ "inf"
  else "NaN"

/-- A whole number keeps one place, and below `10 ^ -5` and from `10 ^ 16` on there is an exponent;
what is midway between two decimals goes to the even one. -/
def compactText (x : Double) : String :=
  if x.magnitude = 0 then signText x ++ "0.0"
  else
    let d := shortest .even x
    let exponent : Int := d.power + (toString d.digits).length - 1
    let body :=
      if -5 ≤ exponent ∧ exponent ≤ 15 then
        if 0 ≤ d.power then d.positional ++ ".0" else d.positional
      else d.scientific
    signText x ++ body

end Double

end SqlWeave
