import Reckoner.Number.Numeral

namespace Reckoner.Settings.NumberText

/-!
# Numbers written as texts

A setting that is a number may be written as a text. The text is first taken for an
integer in plain form; then once more without what an integer may be dressed in, which
is white space, a plus sign, leading zeros, a fraction of zeros and underscores. Apart
from that it is taken for a double, which may stand among white space or hold
underscores, but not both. All digits are ASCII digits.
-/

/-- Why a text is not read as an integer. -/
inductive IntegerFlaw where
  | unclear
  /-- More characters than an integer may have. -/
  | oversized
  deriving Repr, DecidableEq

/-- A minus sign at the start of a text, and what follows it. -/
def splitMinus : List Char → List Char × List Char
  | '-' :: rest => (['-'], rest)
  | rest => ([], rest)

/--
The integer of a text in plain form: digits without needless zeros, after a minus sign
if it is negative.

A sign and digits that are too long are told apart from other flaws, whatever follows
them.
-/
def plainInteger
    (text : List Char) :
    Except IntegerFlaw Int :=
  let (minus, unsigned) := splitMinus text
  let digits := unsigned.takeWhile Char.isDigit
  let rest := unsigned.dropWhile Char.isDigit
  if unsigned = ['0'] then
    .ok 0
  else if digits = [] ∨ digits.head? = some '0' then
    .error .unclear
  else if minus.length + digits.length > digitLimit then
    .error .oversized
  else if rest ≠ [] then
    .error .unclear
  else
    match Numeral.bareInteger? text with
    | some n => .ok n
    | none => .error .unclear

/-- Whether a character is a zero or an underscore. -/
def isPadding
    (character : Char) :
    Bool :=
  character = '0' || character = '_'

/--
A text without the zeros and underscores in front of a digit or a minus sign.

In front of a point the last of them is kept, and so it is where nothing follows them.
-/
def withoutLeadingZeros? : List Char → Option (List Char)
  | [] => none
  | first :: rest =>
      if first = '0' then
        let padding := rest.takeWhile isPadding
        let last := (padding.getLast?).getD first
        match rest.dropWhile isPadding with
        | [] => some [last]
        | next :: others =>
            if next = '.' then
              some (last :: next :: others)
            else if next.isDigit ∨ next = '-' then
              some (next :: others)
            else
              none
      else if first.isDigit ∨ first = '-' then
        some (first :: rest)
      else
        none

/-- A text without a plus sign at its start, after which no minus sign may stand. -/
def withoutPlus? : List Char → Option (List Char)
  | '+' :: '-' :: _ => none
  | '+' :: rest => some rest
  | text => some text

/-- A text up to its first point, if only zeros and at least one of them follow. -/
def withoutZeroFraction
    (text : List Char) :
    List Char :=
  match text.dropWhile (· ≠ '.') with
  | _ :: '0' :: fraction =>
      if fraction.all (· = '0') then
        text.takeWhile (· ≠ '.')
      else
        text
  | _ => text

/-- Whether two underscores stand side by side. -/
def hasDoubleUnderscore : List Char → Bool
  | '_' :: '_' :: _ => true
  | _ :: rest => hasDoubleUnderscore rest
  | [] => false

/-- A text without its underscores, if it has some, none at an end and no two in a row. -/
def withoutUnderscores?
    (text : List Char) :
    Option (List Char) :=
  if '_' ∉ text ∨ text.head? = some '_' ∨ text.getLast? = some '_' ∨
      hasDoubleUnderscore text then
    none
  else
    some (text.filter (· ≠ '_'))

/-- A text without what an integer may be dressed in. -/
def undressed?
    (text : List Char) :
    Option (List Char) :=
  (withoutPlus? (Text.trimBoth Text.isWhiteSpace text)).bind fun unsigned =>
    (withoutLeadingZeros? unsigned).map fun bare =>
      let whole := withoutZeroFraction bare
      (withoutUnderscores? whole).getD whole

/-- The integer that a text denotes. -/
def integer
    (text : List Char) :
    Except IntegerFlaw Int :=
  match plainInteger text, undressed? text with
  | .error .unclear, some bare => plainInteger bare
  | result, _ => result

/-- The double that has a name, whatever the case of the name. -/
def namedFloat?
    (text : List Char) :
    Option Float :=
  let (negative, unsigned) := Numeral.splitSign text
  let name := String.ofList (unsigned.map Char.toLower)
  if name = "inf" ∨ name = "infinity" then
    some (Binary64.infinity negative)
  else if name = "nan" then
    some Binary64.nan
  else
    none

/-- The double of a text in plain form: a name, or a numeral of ASCII digits. -/
def plainFloat?
    (text : List Char) :
    Option Float :=
  match namedFloat? text with
  | some x => some x
  | none =>
      if text.all (fun character => character.toNat < 128) then
        Numeral.bareFloat? text
      else
        none

/-- The double that a text denotes. -/
def float?
    (text : List Char) :
    Option Float :=
  match plainFloat? (Text.trimBoth Text.isWhiteSpace text) with
  | some x => some x
  | none => (withoutUnderscores? text).bind plainFloat?

end Reckoner.Settings.NumberText
