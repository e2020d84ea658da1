import Reckoner.Number.Binary64

namespace Reckoner.Binary64

/-!
# The shortest decimal that reads back

A positive double is the nearest double of a whole interval of real numbers. Of
the decimals in that interval `shortest` takes one with the fewest digits, and
among those the nearest to the double; a tie goes to the even last digit.

For a given number of digits only the two neighbours of the double on the grid of
such decimals can be the nearest ones in the interval, so they alone are tried.
-/

/-- The decimal `digits * 10 ^ exponent`. -/
structure Decimal where
  digits : Nat
  exponent : Int
  deriving Repr, DecidableEq

/--
The interval of real numbers whose nearest double is a given one, in quarters of
the least unit.
-/
structure ReadBack where
  low : Nat
  high : Nat
  closed : Bool
  deriving Repr, DecidableEq

/--
The numbers that read back as a magnitude.

The neighbour above is one step away, and so is the neighbour below unless the
magnitude is the least one with its exponent, where it is half a step away. A tie
between neighbours is read as the even one.
-/
def Magnitude.readBack
    (magnitude : Magnitude) :
    ReadBack :=
  let centre := 4 * magnitude.units
  let halfStep := 2 * Nat.pow 2 magnitude.shift
  let halfStepBelow :=
    if magnitude.significand = Nat.pow 2 52 ∧ 0 < magnitude.shift then
      Nat.pow 2 magnitude.shift
    else
      halfStep
  {
    low := centre - halfStepBelow
    high := centre + halfStep
    closed := magnitude.significand % 2 = 0
  }

/-- A quotient of natural numbers. -/
structure Quotient where
  numerator : Nat
  denominator : Nat
  deriving Repr, DecidableEq

/-- A decimal in quarters of the least unit. -/
def Decimal.quarterUnits
    (decimal : Decimal) :
    Quotient :=
  if 0 ≤ decimal.exponent then
    ⟨4 * unitsPerOne * decimal.digits * Nat.pow 10 decimal.exponent.toNat, 1⟩
  else
    ⟨4 * unitsPerOne * decimal.digits, Nat.pow 10 (-decimal.exponent).toNat⟩

/-- Whether a decimal lies in the interval. -/
def ReadBack.contains
    (interval : ReadBack)
    (decimal : Decimal) :
    Bool :=
  let value := decimal.quarterUnits
  let low := interval.low * value.denominator
  let high := interval.high * value.denominator
  if interval.closed then
    low ≤ value.numerator && value.numerator ≤ high
  else
    low < value.numerator && value.numerator < high

/-- The largest decimal with a given exponent that is not above a number of units. -/
def Decimal.below
    (units : Nat)
    (exponent : Int) :
    Decimal :=
  if 0 ≤ exponent then
    ⟨units / (unitsPerOne * Nat.pow 10 exponent.toNat), exponent⟩
  else
    ⟨units * Nat.pow 10 (-exponent).toNat / unitsPerOne, exponent⟩

/-- The next decimal with the same exponent. -/
def Decimal.next
    (decimal : Decimal) :
    Decimal :=
  { decimal with digits := decimal.digits + 1 }

/--
Of a decimal below a magnitude and the next one above it, the nearer; a tie goes
to the even last digit.
-/
def nearerNeighbour
    (magnitude : Magnitude)
    (below : Decimal) :
    Decimal :=
  let low := below.quarterUnits
  let high := below.next.quarterUnits
  let twice := 8 * magnitude.units * low.denominator
  let middle := low.numerator + high.numerator
  if twice < middle then
    below
  else if middle < twice then
    below.next
  else if below.digits % 2 = 0 then
    below
  else
    below.next

/-- The nearest decimal of a given exponent that reads back as the magnitude. -/
def candidate?
    (magnitude : Magnitude)
    (exponent : Int) :
    Option Decimal :=
  let interval := magnitude.readBack
  let below := Decimal.below magnitude.units exponent
  match interval.contains below, interval.contains below.next with
  | true, true => some (nearerNeighbour magnitude below)
  | true, false => some below
  | false, true => some below.next
  | false, false => none

/-- The exponent of the leading decimal digit of a positive magnitude. -/
def Magnitude.leadingExponent
    (magnitude : Magnitude) :
    Int :=
  (Nat.repr (magnitude.units * Nat.pow 10 400 / unitsPerOne)).length - 401

/-- Write a decimal without trailing zeros, at most as many as the bound says. -/
def Decimal.withoutTrailingZeros :
    Nat →
    Decimal →
    Decimal
  | 0, decimal => decimal
  | bound + 1, decimal =>
      if decimal.digits % 10 = 0 then
        withoutTrailingZeros bound
          ⟨decimal.digits / 10, decimal.exponent + 1⟩
      else
        decimal

/-- Seventeen digits tell every double from its neighbours. -/
def digitsEnough : Nat :=
  17

/-- The nearest of the shortest decimals that read back as a positive magnitude. -/
def shortest
    (magnitude : Magnitude) :
    Decimal :=
  let leading := magnitude.leadingExponent
  let found :=
    (List.range digitsEnough).findSome? fun (extraDigits : Nat) =>
      candidate? magnitude (leading - extraDigits)
  (found.getD (Decimal.below magnitude.units (leading - digitsEnough))).withoutTrailingZeros
    digitsEnough

end Reckoner.Binary64
