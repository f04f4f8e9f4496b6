/-!
# Binary floating-point numbers

A double is kept as its 64 bits, so that equality, rounding and printing are all computed on
natural numbers and nothing here depends on the machine's arithmetic.

* `Scaled` — a magnitude `digits * 2 ^ power`.
* `nearest` — the nearest magnitude with so many binary digits, a tie going to the even one.
* `Double.ofRatio` — the double nearest to a quotient of naturals.
* `Double.times`, `Double.dividedBy` — a double times or divided by a power of ten, itself rounded.
-/

namespace SqlWeave

/-! ## Rounding to a binary grid -/

/-- The magnitude `digits * 2 ^ power`. -/
structure Scaled where
  digits : Nat
  power : Int
  deriving DecidableEq, Repr

/-- A quotient of naturals, the denominator being positive wherever one is built. -/
structure Quotient where
  num : Nat
  den : Nat
  deriving DecidableEq, Repr

/-- The natural number nearest to a quotient; a tie goes to the even neighbour. -/
def Quotient.roundEven (x : Quotient) : Nat :=
  let low := x.num / x.den
  let rest := 2 * (x.num % x.den)
  if rest < x.den then low
  else if x.den < rest then low + 1
  else low + low % 2

/-- A quotient divided by `2 ^ power`. -/
def Quotient.shift (x : Quotient) (power : Int) : Quotient :=
  if 0 ≤ power then ⟨x.num, x.den * Nat.pow 2 power.toNat⟩
  else ⟨x.num * Nat.pow 2 (-power).toNat, x.den⟩

/-- The quotient that a magnitude stands for. -/
def Scaled.toQuotient (x : Scaled) : Quotient :=
  if 0 ≤ x.power then ⟨x.digits * Nat.pow 2 x.power.toNat, 1⟩
  else ⟨x.digits, Nat.pow 2 (-x.power).toNat⟩

/-- The nearest magnitude with at most `width` binary digits and a power of at least `least`.  The
power is the smallest for which the whole part has no more than `width` digits, so rounding may
still carry to `2 ^ width`. -/
def nearest (width : Nat) (least : Int) (x : Quotient) : Scaled :=
  let guess : Int := max ((x.num.log2 : Int) - x.den.log2 - width) least
  let whole := (x.shift guess).num / (x.shift guess).den
  let power := if whole < Nat.pow 2 width then guess else guess + 1
  ⟨(x.shift power).roundEven, power⟩

/-! ## Doubles -/

/-- A double-precision number, given by its bits. -/
structure Double where
  bits : UInt64
  deriving DecidableEq, Repr, Inhabited

namespace Double

/-- The least power of two of a double. -/
def leastPower : Int := -1074

/-- The bits of positive infinity. -/
def infinityBits : Nat := 0x7ff0000000000000

/-- The double with the given sign and the given bits below it. -/
def withSign (negative : Bool) (magnitude : Nat) : Double :=
  ⟨UInt64.ofNat (magnitude + if negative then Nat.pow 2 63 else 0)⟩

/-- Infinity with a sign. -/
def infinity (negative : Bool) : Double :=
  withSign negative infinityBits

/-- The one number that is not a number. -/
def nan : Double :=
  ⟨0x7ff8000000000000⟩

/-- Whether the sign bit is set. -/
def isNegative (x : Double) : Bool :=
  Nat.pow 2 63 ≤ x.bits.toNat

/-- The bits below the sign. -/
def magnitude (x : Double) : Nat :=
  x.bits.toNat % Nat.pow 2 63

/-- Whether the number is finite. -/
def isFinite (x : Double) : Bool :=
  x.magnitude < infinityBits

/-- Whether the number is one of the two infinities. -/
def isInfinite (x : Double) : Bool :=
  x.magnitude = infinityBits

/-- The magnitude of a finite double. -/
def toScaled (x : Double) : Scaled :=
  let biased : Nat := x.magnitude / Nat.pow 2 52
  let fraction : Nat := x.magnitude % Nat.pow 2 52
  if biased = 0 then ⟨fraction, leastPower⟩
  else ⟨Nat.pow 2 52 + fraction, leastPower + (biased : Int) - 1⟩

/-- The double with a magnitude of at most 53 binary digits; what is too large is infinite.  A
magnitude of fifty-three digits has a leading one that the bits leave out, and a carry to
`2 ^ 53` comes out as the next power. -/
def ofScaled (negative : Bool) (x : Scaled) : Double :=
  if x.digits < Nat.pow 2 52 then withSign negative x.digits
  else
    let biased := (x.power - leastPower + 1).toNat
    withSign negative (min infinityBits (biased * Nat.pow 2 52 + (x.digits - Nat.pow 2 52)))

/-- The double nearest to a quotient. -/
def ofQuotient (negative : Bool) (x : Quotient) : Double :=
  if x.num = 0 then withSign negative 0 else ofScaled negative (nearest 53 leastPower x)

/-- The double nearest to a natural number. -/
def ofNat (n : Nat) : Double :=
  ofQuotient false ⟨n, 1⟩

/-- The rounded product of the magnitude of `x` and that of `y`, with the sign of `x`. -/
def times (x y : Double) : Double :=
  let a := x.toScaled.toQuotient
  let b := y.toScaled.toQuotient
  ofQuotient x.isNegative ⟨a.num * b.num, a.den * b.den⟩

/-- The rounded quotient of the magnitude of `x` and that of `y`, with the sign of `x`. -/
def dividedBy (x y : Double) : Double :=
  let a := x.toScaled.toQuotient
  let b := y.toScaled.toQuotient
  ofQuotient x.isNegative ⟨a.num * b.den, a.den * b.num⟩

/-- The opposite number. -/
def negate (x : Double) : Double :=
  withSign (!x.isNegative) x.magnitude

end Double

/-! ## Single precision -/

/-- The double equal to the single-precision number nearest to a quotient.  Single precision has
24 binary digits and powers from -149; from `2 ^ 128` on it is infinite. -/
def Double.ofSingleQuotient (negative : Bool) (x : Quotient) : Double :=
  if x.num = 0 then Double.withSign negative 0
  else
    let y := (nearest 24 (-149) x).toQuotient
    if Nat.pow 2 128 * y.den ≤ y.num then Double.infinity negative else Double.ofQuotient negative y

end SqlWeave
