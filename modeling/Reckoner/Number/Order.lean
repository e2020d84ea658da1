import Reckoner.Number.Functions

namespace Reckoner

/-!
# The order of numbers

Integers and doubles are compared by their exact values, without rounding either
of them. A value without a number is neither below nor above anything.
-/

namespace Number

/-- A number on the line that ends in the two infinities. -/
inductive Place where
  | below
  | at (units : Int)
  | above
  deriving Repr, DecidableEq

/-- Where a number lies, in least units; none for a value without a number. -/
def place? : Number → Option Place
  | .int n => some (.at (n * Binary64.unitsPerOne))
  | .float x =>
      if Binary64.isNaN x then
        none
      else if Binary64.isFinite x then
        some (.at (Binary64.signedUnits x))
      else
        some (if Binary64.isNegative x then .below else .above)

/-- Whether one place lies before another. -/
def Place.before : Place → Place → Bool
  | .below, .below => false
  | .below, _ => true
  | .at left, .at right => left < right
  | .at _, .above => true
  | _, _ => false

/-- Whether a number is less than another. -/
def less
    (left right : Number) :
    Bool :=
  match left.place?, right.place? with
  | some first, some second => first.before second
  | _, _ => false

end Number

namespace Arithmetic

/-- The larger of two numbers; the first one if they are equal. -/
def larger
    (left right : Number) :
    Attempt Number :=
  .ok (if left.less right then right else left)

/-- The smaller of two numbers; the first one if they are equal. -/
def smaller
    (left right : Number) :
    Attempt Number :=
  .ok (if right.less left then right else left)

/-- Twice a number, without a limit on the size of integers. -/
def double : Number → Number
  | .int n => .int (n * 2)
  | .float x => .float (x * 2.0)

end Arithmetic

namespace Function

/-- The function that doubles its argument. -/
def double : Function :=
  unary fun x => .ok (Arithmetic.double x)

/-- The function without arguments that always gives the same number. -/
def constant
    (number : Number) :
    Function
  | _, none => .ok (some number)
  | _, some _ => .error .wrongArguments

/-- The function that takes any argument and gives no value. -/
def valueless : Function :=
  fun _ _ => .ok none

end Function

end Reckoner
