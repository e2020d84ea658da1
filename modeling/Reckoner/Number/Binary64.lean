namespace Reckoner.Binary64

/-!
# Doubles as multiples of a least unit

Every finite double is a whole multiple of `2 ^ (-1074)`, the *least unit*. Its
magnitude is `significand * 2 ^ shift` units, and the bit pattern below the sign
is `shift * 2 ^ 52 + significand`, for subnormal and normal doubles alike. On this
view conversions from and to exact numbers are arithmetic of natural numbers.
-/

/-- The number of least units in one. -/
def unitsPerOne : Nat :=
  Nat.pow 2 1074

/-- The bit pattern of infinity; finite magnitudes have smaller patterns. -/
def infinityPattern : Nat :=
  2047 * Nat.pow 2 52

/-- The bit pattern without the sign. -/
def pattern
    (x : Float) :
    Nat :=
  x.toBits.toNat % Nat.pow 2 63

/-- Whether the sign bit is set, also of a zero or of a value that is no number. -/
def isNegative
    (x : Float) :
    Bool :=
  Nat.pow 2 63 ≤ x.toBits.toNat

/-- Whether a double is neither infinite nor without a value. -/
def isFinite
    (x : Float) :
    Bool :=
  pattern x < infinityPattern

/-- Whether a double is one of the two infinities. -/
def isInfinite
    (x : Float) :
    Bool :=
  pattern x = infinityPattern

/-- Whether a double stands for no number. -/
def isNaN
    (x : Float) :
    Bool :=
  infinityPattern < pattern x

/-- The double with a given sign and bit pattern. -/
def ofPattern
    (negative : Bool)
    (bits : Nat) :
    Float :=
  Float.ofBits (UInt64.ofNat (if negative then Nat.pow 2 63 + bits else bits))

/-- The infinity of a given sign. -/
def infinity
    (negative : Bool) :
    Float :=
  ofPattern negative infinityPattern

/-- The value without a number. -/
def nan : Float :=
  ofPattern false (infinityPattern + Nat.pow 2 51)

/-- The magnitude `significand * 2 ^ shift` in least units. -/
structure Magnitude where
  significand : Nat
  shift : Nat
  deriving Repr, DecidableEq

/-- The magnitude with a finite bit pattern. -/
def Magnitude.ofPattern
    (bits : Nat) :
    Magnitude :=
  if bits < Nat.pow 2 53 then
    ⟨bits, 0⟩
  else
    ⟨Nat.pow 2 52 + bits % Nat.pow 2 52, bits / Nat.pow 2 52 - 1⟩

/-- The number of least units in a magnitude. -/
def Magnitude.units
    (magnitude : Magnitude) :
    Nat :=
  magnitude.significand * Nat.pow 2 magnitude.shift

/-- The number of least units in a finite double, without its sign. -/
def units
    (x : Float) :
    Nat :=
  (Magnitude.ofPattern (pattern x)).units

/-- The number of least units in a finite double. -/
def signedUnits
    (x : Float) :
    Int :=
  if isNegative x then -(units x : Int) else units x

/-- The whole number nearest to a quotient; a half goes to the even neighbour. -/
def roundedQuotient
    (numerator denominator : Nat) :
    Nat :=
  let quotient := numerator / denominator
  let remainder := numerator % denominator
  if 2 * remainder < denominator then
    quotient
  else if denominator < 2 * remainder then
    quotient + 1
  else
    quotient + quotient % 2

/--
The bit pattern of the double nearest to a quotient, ties to even.

A significand has 53 bits unless the value is subnormal. Rounding up to the next
power of two carries into the exponent of itself. A pattern that is not below
`infinityPattern` says that the quotient is beyond the largest double.
-/
def roundedPattern
    (numerator denominator : Nat) :
    Nat :=
  let scaled := numerator * unitsPerOne
  let shift := (scaled / denominator).log2 - 52
  shift * Nat.pow 2 52 +
    roundedQuotient scaled (denominator * Nat.pow 2 shift)

/-- The double nearest to a signed quotient, unless it is beyond the largest. -/
def ofQuotient?
    (negative : Bool)
    (numerator denominator : Nat) :
    Option Float :=
  let bits := roundedPattern numerator denominator
  if bits < infinityPattern then some (ofPattern negative bits) else none

/-- The double nearest to an integer, unless it is beyond the largest. -/
def ofInt?
    (n : Int) :
    Option Float :=
  ofQuotient? (decide (n < 0)) n.natAbs 1

/--
The double nearest to `digits * 10 ^ exponent`; beyond the largest double it is
infinite.

Outside the range of exponents that doubles reach the answer is known from the
number of digits alone, so no power of ten is computed for it.
-/
def ofDecimal
    (negative : Bool)
    (digits : Nat)
    (exponent : Int) :
    Float :=
  let top : Int := exponent + (Nat.repr digits).length
  if digits = 0 ∨ top < -330 then
    ofPattern negative 0
  else if 310 < top then
    infinity negative
  else
    let nearest :=
      if 0 ≤ exponent then
        ofQuotient? negative (digits * Nat.pow 10 exponent.toNat) 1
      else
        ofQuotient? negative digits (Nat.pow 10 (-exponent).toNat)
    nearest.getD (infinity negative)

/-- Whether a finite double is a whole number. -/
def isWhole
    (x : Float) :
    Bool :=
  isFinite x && units x % unitsPerOne = 0

/-- The largest integer not above a finite double. -/
def floor
    (x : Float) :
    Int :=
  signedUnits x / unitsPerOne

/-- The least integer not below a finite double. -/
def ceil
    (x : Float) :
    Int :=
  -(-signedUnits x / unitsPerOne)

/--
The remainder of a floored division, with the sign of the divisor.

The remainder towards zero is exact in least units; one rounded addition of the
divisor then moves it to the divisor's side of zero.
-/
def flooredRemainder
    (dividend divisor : Float) :
    Float :=
  if isNaN dividend || isNaN divisor || isInfinite dividend then
    nan
  else
    let remainder :=
      if isInfinite divisor then units dividend
      else units dividend % units divisor
    if remainder = 0 then
      ofPattern (isNegative divisor) 0
    else
      let signed :=
        (ofQuotient? (isNegative dividend) remainder unitsPerOne).getD nan
      if isNegative dividend = isNegative divisor then
        signed
      else
        signed + divisor

end Reckoner.Binary64
