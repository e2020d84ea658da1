import Reckoner.Number.Arithmetic

namespace Reckoner

/-!
# Functions

A function is called with one argument or with none. It gives a number, or no
value, or a fault.

What a function gives may differ from call to call. The calls of an evaluation are
told apart by their sites, as no token is passed twice: a function that draws a new
number whenever it is called is one whose results depend on the site. All others give
the same at every site.

The roots, logarithms and angle functions work on doubles: a result that is no
number, for an argument that is one, means that the argument is outside the
domain, and so does an infinite result for a finite argument.
-/

/-- Where a function is called: at which offset of a source, if in one at all. -/
abbrev CallSite :=
  Option Nat

/-- A number from the unit interval for each call, drawn in advance. -/
abbrev Draws :=
  CallSite → Float

/-- A function of at most one argument, which is called somewhere. -/
abbrev Function :=
  CallSite → Option Number → Except Fault (Option Number)

namespace Function

/-- A function that takes exactly one argument. -/
def unary
    (body : Number → Except Fault Number) :
    Function
  | _, some argument => (body argument).map some
  | _, none => .error .wrongArguments

/-- The double of an argument. -/
def argumentFloat
    (x : Number) :
    Except Fault Float :=
  match x.toFloat? with
  | some value => .ok value
  | none => .error .beyondFloats

/-- A result in doubles, unless it shows that the argument is outside the domain. -/
def withinDomain
    (argument result : Float) :
    Except Fault Number :=
  if Binary64.isNaN result ∧ ¬Binary64.isNaN argument then
    .error .outsideDomain
  else if Binary64.isInfinite result ∧ Binary64.isFinite argument then
    .error .outsideDomain
  else
    .ok (.float result)

/-- A function computed in doubles. -/
def ofFloats
    (body : Float → Float) :
    Function :=
  unary fun x =>
    (argumentFloat x).bind fun argument =>
      withinDomain argument (body argument)

/-- An integer made from a finite double. -/
def integerOf
    (integerPart : Float → Int)
    (x : Float) :
    Except Fault Number :=
  if Binary64.isNaN x then
    .error .notANumber
  else if Binary64.isInfinite x then
    .error .infinite
  else
    .ok (.int (integerPart x))

/-- The largest integer not above a number. -/
def floor : Function :=
  unary fun
    | .int n => .ok (.int n)
    | .float x => integerOf Binary64.floor x

/-- The least integer not below a number. -/
def ceil : Function :=
  unary fun
    | .int n => .ok (.int n)
    | .float x => integerOf Binary64.ceil x

/-- The integer part of the double one half above: a half is rounded up. -/
def round : Function :=
  unary fun x =>
    (argumentFloat x).bind fun value =>
      integerOf Binary64.floor (value + 0.5)

/-- One, minus one or zero, as a number is above, below or neither. -/
def sign : Function :=
  unary fun
    | .int n => .ok (.int n.sign)
    | .float x =>
        .ok (.int (if 0.0 < x then 1 else if x < 0.0 then -1 else 0))

/--
The logarithm of a positive integer beyond all doubles, from the double nearest to
its leading bits and the number of its bits.
-/
def logBeyondFloats
    (n : Int) :
    Float :=
  let bits := Arithmetic.bitLength n
  let fraction := (Binary64.ofQuotient? false n.natAbs (Nat.pow 2 bits)).getD 1.0
  if fraction == 1.0 then
    Float.log 0.5 + Float.log 2.0 * Float.ofNat (bits + 1)
  else
    Float.log fraction + Float.log 2.0 * Float.ofNat bits

/-- The logarithm of a positive integer of any size. -/
def logOfPositive
    (n : Int) :
    Float :=
  (Binary64.ofInt? n).elim (logBeyondFloats n) Float.log

/-- The natural logarithm, also of integers beyond all doubles. -/
def log : Function :=
  unary fun
    | .int n =>
        if n ≤ 0 then
          .error .outsideDomain
        else
          .ok (.float (logOfPositive n))
    | .float x =>
        if x ≤ 0.0 then
          .error .outsideDomain
        else
          .ok (.float (Float.log x))

/-- The number drawn for the call, scaled by the argument or by one. -/
def scaledDraw
    (draws : Draws) :
    Function
  | site, none => .ok (some (.float (draws site)))
  | site, some scale =>
      (argumentFloat scale).map fun factor =>
        some (.float (draws site * factor))

end Function

end Reckoner
