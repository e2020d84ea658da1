import Reckoner.Number.Shortest

namespace Reckoner

/-!
# Numbers and their text

A number is an integer of any size or a double. The two are kept apart: an integer
is written by its digits alone, a double always shows that it is one, by a point,
an exponent or a name.

An integer is written only while it has at most `digitLimit` digits; `text?` has
no answer for a longer one.
-/

/-- An integer of any size, or a double. -/
inductive Number where
  | int (value : Int)
  | float (value : Float)
  deriving Repr

/-- The most decimal digits an integer may have to be read or written. -/
def digitLimit : Nat :=
  4300

/-- How the text of doubles is laid out. -/
structure FloatLayout where
  /-- The least exponent of the leading digit that is written positionally. -/
  leastPositional : Int
  /-- The first exponent of the leading digit that needs scientific notation. -/
  firstScientific : Int
  /-- The least number of digits of a written exponent. -/
  exponentDigits : Nat
  deriving Repr, DecidableEq

/--
Doubles from `1e-4` up to `1e16` are written positionally, and exponents have at
least two digits.
-/
def Number.floatLayout : FloatLayout :=
  ⟨-4, 16, 2⟩

namespace Binary64

/-- The digits of a decimal with a point after its leading digit, if more follow. -/
def pointAfterFirst
    (digits : List Char) :
    List Char :=
  match digits with
  | first :: second :: rest => first :: '.' :: second :: rest
  | few => few

/-- The text of an exponent: its sign and at least the least number of digits. -/
def exponentText
    (layout : FloatLayout)
    (exponent : Int) :
    List Char :=
  let digits := (Nat.repr exponent.natAbs).toList
  (if exponent < 0 then '-' else '+') ::
    (List.replicate (layout.exponentDigits - digits.length) '0' ++ digits)

/-- The text of a positive decimal without trailing zeros. -/
def decimalText
    (layout : FloatLayout)
    (decimal : Decimal) :
    List Char :=
  let digits := (Nat.repr decimal.digits).toList
  let leading := decimal.exponent + digits.length - 1
  if layout.leastPositional ≤ leading ∧ leading < layout.firstScientific then
    if 0 ≤ decimal.exponent then
      digits ++ List.replicate decimal.exponent.toNat '0' ++ ['.', '0']
    else if 0 ≤ leading then
      digits.take (leading.toNat + 1) ++
        '.' :: digits.drop (leading.toNat + 1)
    else
      '0' :: '.' ::
        (List.replicate ((-leading).toNat - 1) '0' ++ digits)
  else
    pointAfterFirst digits ++ 'e' :: exponentText layout leading

/-- The text of a double: the shortest decimal that reads back, or its name. -/
def text
    (layout : FloatLayout)
    (x : Float) :
    String :=
  let sign := if isNegative x then ['-'] else []
  if isNaN x then
    "nan"
  else if isInfinite x then
    String.ofList (sign ++ ['i', 'n', 'f'])
  else if pattern x = 0 then
    String.ofList (sign ++ ['0', '.', '0'])
  else
    String.ofList
      (sign ++ decimalText layout (shortest (Magnitude.ofPattern (pattern x))))

end Binary64

namespace Number

/-- Whether an integer has few enough digits to be written. -/
def isWritable
    (n : Int) :
    Bool :=
  n.natAbs < Nat.pow 10 digitLimit

/-- The text of a number; an integer with too many digits has none. -/
def text? : Number → Option String
  | .int n => if isWritable n then some (toString n) else none
  | .float x => some (Binary64.text floatLayout x)

/-- The magnitude from which on a whole double keeps its double notation. -/
def plainLimit : Nat :=
  Nat.pow 10 16

/-- The integer that a whole double of moderate size is shown as. -/
def plainInteger?
    (x : Float) :
    Option Int :=
  if Binary64.isWhole x ∧
      Binary64.units x < plainLimit * Binary64.unitsPerOne then
    some (Binary64.floor x)
  else
    none

/-- The text of a result: whole doubles of moderate size lose their fraction. -/
def display? : Number → Option String
  | .int n => text? (.int n)
  | .float x =>
      match plainInteger? x with
      | some n => text? (.int n)
      | none => text? (.float x)

/-- The double nearest to a number; none for an integer beyond all doubles. -/
def toFloat? : Number → Option Float
  | .int n => Binary64.ofInt? n
  | .float x => some x

/-- Whether a number equals zero. -/
def isZero : Number → Bool
  | .int n => n = 0
  | .float x => Binary64.pattern x = 0

end Number

end Reckoner
