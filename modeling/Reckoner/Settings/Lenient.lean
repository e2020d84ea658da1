import Reckoner.Settings.NumberText
import Reckoner.Toml.Value

namespace Reckoner.Settings

/-!
# Lenient reading of setting values

A truth value may be written as a word or as zero or one, and a variable as a truth
value or as a text that denotes a number. A text is never made from anything else.
What cannot be read so is a `Problem`.
-/

/-- What is wrong with the value of a setting. -/
inductive Problem where
  | notText
  /-- A value that could be a truth value but is none. -/
  | unclearTruth
  /-- A value of a kind that has no truth values. -/
  | notTruth
  | unclearInteger
  /-- An integer that is too long to be read. -/
  | oversizedInteger
  | notInteger
  | unclearFloat
  | notFloat
  | notTable
  | notSettings
  /-- A value of the right kind that the setting does not allow. -/
  | refused (reason : String)
  deriving Repr, DecidableEq

/-- The message that states a problem. -/
def Problem.message : Problem → String
  | notText => "Input should be a valid string"
  | unclearTruth =>
      "Input should be a valid boolean, unable to interpret input"
  | notTruth => "Input should be a valid boolean"
  | unclearInteger =>
      "Input should be a valid integer, unable to parse string as an integer"
  | oversizedInteger =>
      "Unable to parse input string as an integer, exceeded maximum size"
  | notInteger => "Input should be a valid integer"
  | unclearFloat =>
      "Input should be a valid number, unable to parse string as a number"
  | notFloat => "Input should be a valid number"
  | notTable => "Input should be a valid dictionary"
  | notSettings =>
      "Input should be a valid dictionary or instance of CalculatorConfig"
  | refused reason => "Value error, " ++ reason

/-- The problem of a text that is not read as an integer. -/
def Problem.ofIntegerFlaw : NumberText.IntegerFlaw → Problem
  | .unclear => unclearInteger
  | .oversized => oversizedInteger

/-- The text of a setting that must be one. -/
def readText : Toml.Value → Except Problem String
  | .string characters => .ok characters
  | _ => .error .notText

/-- A text with its ASCII letters in lower case. -/
def lowered
    (text : String) :
    String :=
  String.ofList (text.toList.map Char.toLower)

/-- The words that mean yes. -/
def yesWords : List String :=
  ["1", "on", "t", "true", "y", "yes"]

/-- The words that mean no. -/
def noWords : List String :=
  ["0", "off", "f", "false", "n", "no"]

/-- The truth value that a word means, whatever its case. -/
def truthOfWord
    (word : String) :
    Except Problem Bool :=
  if lowered word ∈ yesWords then
    .ok true
  else if lowered word ∈ noWords then
    .ok false
  else
    .error .unclearTruth

/-- The truth value of a number; one that is not near zero has no truth values. -/
def truthOfNumber
    (n : Int) :
    Except Problem Bool :=
  if n = 0 then
    .ok false
  else if n = 1 then
    .ok true
  else
    .error .unclearTruth

/-- Integers from here on, of either sign, are not even tried as truth values. -/
def truthBound : Int :=
  Nat.pow 2 63

/-- The truth value of a setting that must be one. -/
def readTruth : Toml.Value → Except Problem Bool
  | .boolean truth => .ok truth
  | .string word => truthOfWord word
  | .integer n =>
      if -truthBound ≤ n ∧ n < truthBound then
        truthOfNumber n
      else
        .error .notTruth
  | .float x =>
      if Binary64.isWhole x ∧
          -truthBound < Binary64.floor x ∧ Binary64.floor x < truthBound then
        truthOfNumber (Binary64.floor x)
      else
        .error .notTruth
  | _ => .error .notTruth

/-- What is wrong with a variable, as an integer and as a float. -/
structure VariableProblems where
  asInteger : Problem
  asFloat : Problem
  deriving Repr, DecidableEq

/-- The number of a variable: an integer if it can be read as one, else a float. -/
def readNumber : Toml.Value → Except VariableProblems Number
  | .integer n => .ok (.int n)
  | .float x => .ok (.float x)
  | .boolean truth => .ok (.int (if truth then 1 else 0))
  | .string text =>
      match NumberText.integer text.toList, NumberText.float? text.toList with
      | .ok n, _ => .ok (.int n)
      | .error _, some x => .ok (.float x)
      | .error flaw, none => .error ⟨Problem.ofIntegerFlaw flaw, .unclearFloat⟩
  | _ => .error ⟨.notInteger, .notFloat⟩

end Reckoner.Settings
