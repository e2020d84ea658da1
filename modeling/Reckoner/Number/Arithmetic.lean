import Reckoner.Failure
import Reckoner.Number.Numeral

namespace Reckoner.Arithmetic

/-!
# The operations of the calculator

Integers are computed exactly, up to `bitLimit` bits for the results of addition,
subtraction and multiplication; an operation with a double is computed in doubles.
A quotient is always a double, and so is a power whose exact value might exceed the
limit. Each way to have no result is a cause of failure without a position.
-/

/-- The most bits of an integer result. -/
def bitLimit : Nat :=
  12000

/-- The largest number that has a factorial here. -/
def factorialLimit : Nat :=
  1000

/-- The number of binary digits of an integer, without its sign. -/
def bitLength
    (n : Int) :
    Nat :=
  if n = 0 then 0 else n.natAbs.log2 + 1

/-- The text of a number in a message. -/
def shown
    (x : Number) :
    Attempt String :=
  match x.text? with
  | some text => .ok text
  | none => .error (.fault .beyondDigits)

/-- The double of an operand; a larger integer makes the operation fail. -/
def operandFloat
    (symbol : String)
    (x : Number) :
    Attempt Float :=
  match x.toFloat? with
  | some value => .ok value
  | none => .error (.unplaced (.tooLarge symbol))

/-- An integer result within the limit. -/
def bounded
    (symbol : String)
    (n : Int) :
    Attempt Number :=
  if bitLimit < bitLength n then
    .error (.unplaced (.tooLarge symbol))
  else
    .ok (.int n)

/-- An operation on integers or, if a double takes part, on doubles. -/
def mixed
    (symbol : String)
    (onIntegers : Int → Int → Attempt Number)
    (onFloats : Float → Float → Attempt Number) :
    Number →
    Number →
    Attempt Number
  | .int a, .int b => onIntegers a b
  | left, right =>
      (operandFloat symbol left).bind fun x =>
        (operandFloat symbol right).bind fun y =>
          onFloats x y

/-- The number written by a numeral. -/
def number
    (lexeme : String) :
    Attempt Number :=
  match Numeral.number? lexeme with
  | some value => .ok value
  | none => .error (.unplaced (.malformedNumber lexeme))

/-- The opposite number. -/
def negate : Number → Attempt Number
  | .int n => .ok (.int (-n))
  | .float x => .ok (.float (-x))

/-- The sum of two numbers. -/
def add : Number → Number → Attempt Number :=
  mixed "+"
    (fun a b => bounded "+" (a + b))
    (fun x y => .ok (.float (x + y)))

/-- The difference of two numbers. -/
def subtract : Number → Number → Attempt Number :=
  mixed "-"
    (fun a b => bounded "-" (a - b))
    (fun x y => .ok (.float (x - y)))

/-- The product of two numbers. -/
def multiply : Number → Number → Attempt Number :=
  mixed "*"
    (fun a b => bounded "*" (a * b))
    (fun x y => .ok (.float (x * y)))

/-- The double nearest to the quotient of two integers, whatever their size. -/
def integerQuotient
    (a b : Int) :
    Attempt Number :=
  let quotient :=
    Binary64.ofQuotient? (decide (a < 0) != decide (b < 0))
      a.natAbs b.natAbs
  quotient.elim (.error (.unplaced (.tooLarge "/"))) fun x => .ok (.float x)

/-- The quotient of two numbers, always a double. -/
def divide
    (left right : Number) :
    Attempt Number :=
  if right.isZero then
    .error (.unplaced .divisionByZero)
  else
    mixed "/" integerQuotient (fun x y => .ok (.float (x / y))) left right

/-- The remainder of a floored division; it has the sign of the divisor. -/
def modulo
    (left right : Number) :
    Attempt Number :=
  if right.isZero then
    .error (.unplaced .moduloByZero)
  else
    mixed "%"
      (fun a b => .ok (.int (Int.fmod a b)))
      (fun x y => .ok (.float (Binary64.flooredRemainder x y)))
      left right

/-- A natural power of an integer; the powers of 0, 1 and -1 need no computation. -/
def integerPower
    (base : Int)
    (exponent : Nat) :
    Int :=
  if exponent = 0 then
    1
  else if base.natAbs ≤ 1 then
    if exponent % 2 = 0 then base * base else base
  else
    Int.pow base exponent

/-- Whether a double is an odd integer. -/
def isOdd
    (x : Float) :
    Bool :=
  Binary64.isWhole x && Binary64.floor x % 2 = 1

/--
The power of a positive finite double other than one.

A value beyond the doubles fails. A whole exponent that takes a base of at least
`2 ^ k` to `2 ^ 1024` or above is recognised without computing the power.
-/
def positivePower
    (base exponent : Float) :
    Attempt Float :=
  let wholeBits := (Binary64.units base / Binary64.unitsPerOne).log2
  let tooLarge : Attempt Float := .error (.unplaced (.tooLarge "^"))
  if Binary64.isWhole exponent ∧ 1024 ≤ wholeBits * Binary64.floor exponent then
    tooLarge
  else
    let power := Float.pow base exponent
    if Binary64.isInfinite power then tooLarge else .ok power

/-- The power of a double to an infinite exponent. -/
def infinitePower
    (base exponent : Float) :
    Float :=
  let size := Binary64.ofPattern false (Binary64.pattern base)
  if size == 1.0 then
    1.0
  else if Binary64.isNegative exponent = decide (1.0 < size) then
    0.0
  else
    Binary64.infinity false

/-- The power of an infinite or zero double to a finite exponent other than zero. -/
def extremePower
    (large : Bool)
    (base exponent : Float) :
    Float :=
  let negative := Binary64.isNegative base && isOdd exponent
  if large then Binary64.infinity negative else Binary64.ofPattern negative 0

/--
A power of doubles.

Zero to a negative power fails. A negative base has a real power only if the
exponent is whole, and the power is negative if the exponent is odd; for another
exponent the failure says that the value is not real unless its size alone is
already beyond the doubles.
-/
def floatPower
    (base exponent : Float) :
    Attempt Number :=
  if Binary64.pattern exponent = 0 then
    .ok (.float 1.0)
  else if Binary64.isNaN base then
    .ok (.float base)
  else if Binary64.isNaN exponent then
    .ok (.float (if base == 1.0 then 1.0 else exponent))
  else if Binary64.isInfinite exponent then
    .ok (.float (infinitePower base exponent))
  else if Binary64.isInfinite base then
    .ok (.float (extremePower (!Binary64.isNegative exponent) base exponent))
  else if Binary64.pattern base = 0 then
    if Binary64.isNegative exponent then
      .error (.unplaced .zeroToNegativePower)
    else
      .ok (.float (extremePower false base exponent))
  else
    let size := Binary64.ofPattern false (Binary64.pattern base)
    if Binary64.isNegative base ∧ ¬Binary64.isWhole exponent then
      (positivePower size exponent).bind fun _ =>
        .error (.unplaced .powerNotReal)
    else if size == 1.0 then
      .ok (.float (if Binary64.isNegative base ∧ isOdd exponent then -1.0 else 1.0))
    else
      (positivePower size exponent).map fun power =>
        .float (if Binary64.isNegative base ∧ isOdd exponent then -power else power)

/-- A power of numbers computed in doubles. -/
def powerInFloats
    (base exponent : Number) :
    Attempt Number :=
  (operandFloat "^" base).bind fun x =>
    (operandFloat "^" exponent).bind fun y =>
      floatPower x y

/--
The power of two numbers.

An integer to a natural power is exact as long as the bits of the base times the
exponent stay within the limit; the powers of 0, 1 and -1 are always exact.
-/
def power : Number → Number → Attempt Number
  | .int base, .int exponent =>
      if exponent < 0 then
        powerInFloats (.int base) (.int exponent)
      else if 1 < base.natAbs ∧
          (bitLimit : Int) < bitLength base * exponent then
        powerInFloats (.int base) (.int exponent)
      else
        .ok (.int (integerPower base exponent.toNat))
  | base, exponent => powerInFloats base exponent

/-- The product of the first natural numbers. -/
def naturalFactorial : Nat → Nat
  | 0 => 1
  | n + 1 => (n + 1) * naturalFactorial n

/-- The factorial of an integer. -/
def integerFactorial
    (n : Int) :
    Attempt Number :=
  if n < 0 then
    (shown (.int n)).bind fun operand =>
      .error (.unplaced (.factorialOfNegative operand))
  else if (factorialLimit : Int) < n then
    (shown (.int n)).bind fun operand =>
      .error (.unplaced (.factorialTooLarge operand))
  else
    .ok (.int (naturalFactorial n.toNat))

/-- The factorial of a number; a whole double counts as an integer. -/
def factorial : Number → Attempt Number
  | .int n => integerFactorial n
  | .float x =>
      if Binary64.isWhole x then
        integerFactorial (Binary64.floor x)
      else
        (shown (.float x)).bind fun operand =>
          .error (.unplaced (.factorialOfFraction operand))

end Reckoner.Arithmetic
