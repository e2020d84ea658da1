import Reckoner.Number.Basic
import Reckoner.Text.Blank
import Reckoner.Text.Digit

namespace Reckoner.Numeral

/-!
# Reading numerals

A numeral is an optional sign and decimal digits of any script, mixed freely. White
space around it is ignored, and a single underscore may stand between two digits.
With a point or an exponent it denotes a double, otherwise an integer, which may
have at most `digitLimit` digits.
-/

/-- The natural number written by digits in base ten. -/
def ofDigits
    (digits : List Nat) :
    Nat :=
  digits.foldl (fun value digit => 10 * value + digit) 0

/-- The values of the characters, if there are some and all are decimals. -/
def digitValues?
    (characters : List Char) :
    Option (List Nat) :=
  if characters = [] then none else characters.mapM Text.decimalValue?

/-- Whether the first character is a decimal. -/
def startsWithDecimal : List Char → Bool
  | [] => false
  | character :: _ => Text.isDecimal character

/--
Remove the underscores of a numeral, if each of them stands between two decimals.

The flag tells whether a decimal has just been passed.
-/
def withoutUnderscores? :
    Bool →
    List Char →
    Option (List Char)
  | _, [] => some []
  | afterDecimal, '_' :: rest =>
      if afterDecimal ∧ startsWithDecimal rest then
        withoutUnderscores? false rest
      else
        none
  | _, character :: rest =>
      (withoutUnderscores? (Text.isDecimal character) rest).map (character :: ·)

/-- Whether a numeral is negative, and what follows its sign. -/
def splitSign : List Char → Bool × List Char
  | '-' :: rest => (true, rest)
  | '+' :: rest => (false, rest)
  | rest => (false, rest)

/-- The integer denoted by a bare numeral: a sign and digits. -/
def bareInteger?
    (characters : List Char) :
    Option Int :=
  let (negative, rest) := splitSign characters
  (digitValues? rest).bind fun digits =>
    if digits.length ≤ digitLimit then
      some (if negative then -(ofDigits digits : Int) else ofDigits digits)
    else
      none

/-- The exponent after the digits of a numeral; nothing written means zero. -/
def exponent? : List Char → Option Int
  | [] => some 0
  | mark :: rest =>
      if mark = 'e' ∨ mark = 'E' then
        let (negative, digits) := splitSign rest
        (digitValues? digits).map fun values =>
          if negative then -(ofDigits values : Int) else ofDigits values
      else
        none

/-- The fraction digits after a point, if there is a point, and what follows. -/
def splitFraction : List Char → List Char × List Char
  | '.' :: rest => rest.span Text.isDecimal
  | rest => ([], rest)

/--
The double denoted by a bare numeral: a sign, digits with at most one point on
either side of them or between them, and an exponent.
-/
def bareFloat?
    (characters : List Char) :
    Option Float :=
  let (negative, rest) := splitSign characters
  let (whole, afterWhole) := rest.span Text.isDecimal
  let (fraction, afterFraction) := splitFraction afterWhole
  (digitValues? (whole ++ fraction)).bind fun digits =>
    (exponent? afterFraction).map fun exponent =>
      Binary64.ofDecimal negative (ofDigits digits)
        (exponent - fraction.length)

/-- The bare numeral in a text: no white space around it and no underscores. -/
def bare?
    (text : String) :
    Option (List Char) :=
  withoutUnderscores? false (Text.trimBoth Text.isWhiteSpace text.toList)

/-- The integer denoted by a text. -/
def integer?
    (text : String) :
    Option Int :=
  (bare? text).bind bareInteger?

/-- The double denoted by a text. -/
def float?
    (text : String) :
    Option Float :=
  (bare? text).bind bareFloat?

/-- The number denoted by a text: a double if it holds a point, else an integer. -/
def number?
    (text : String) :
    Option Number :=
  if '.' ∈ text.toList then
    (float? text).map .float
  else
    (integer? text).map .int

end Reckoner.Numeral
