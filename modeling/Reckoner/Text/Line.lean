import Reckoner.Text.CodeRange

namespace Reckoner.Text

/-!
# Lines

The lines of an input end with a line feed, a carriage return or both in this order.
A text that is measured breaks at further characters.
-/

/-- Pieces of a text, of which the first has one more character in front. -/
def withInFirst
    (character : Char) :
    List (List Char) →
    List (List Char)
  | [] => [[character]]
  | piece :: rest => (character :: piece) :: rest

/-- A character in front of the first piece is in front of all that the pieces hold. -/
theorem flatten_withInFirst
    (character : Char)
    (pieces : List (List Char)) :
    (withInFirst character pieces).flatten = character :: pieces.flatten := by
  cases pieces <;> simp [withInFirst]

/-- The pieces of a text between the characters of a class. -/
def splitAtEach
    (inClass : Char → Bool) :
    List Char →
    List (List Char)
  | [] => [[]]
  | character :: rest =>
      if inClass character then
        [] :: splitAtEach inClass rest
      else
        withInFirst character (splitAtEach inClass rest)

/-- The pieces hold what is not of the class, in order. -/
theorem flatten_splitAtEach
    (inClass : Char → Bool)
    (text : List Char) :
    (splitAtEach inClass text).flatten = text.filter (fun c => !inClass c) := by
  induction text with
  | nil => rfl
  | cons character rest inductionHypothesis =>
      by_cases member : inClass character = true
      · simp [splitAtEach, member, inductionHypothesis]
      · simp [splitAtEach, member, inductionHypothesis, flatten_withInFirst]

/-- The characters at which a text that is measured breaks. -/
def lineBreaks : List Char :=
  ['\n', '\r', '\x0b', '\x0c', '\x1c', '\x1d', '\x1e', '\u0085', '\u2028', '\u2029']

/-- Whether a text that is measured breaks at a character. -/
def isLineBreak
    (character : Char) :
    Bool :=
  lineBreaks.contains character

/-- A text whose lines all end with a line feed. -/
def withLineFeeds : List Char → List Char
  | '\r' :: '\n' :: rest => '\n' :: withLineFeeds rest
  | '\r' :: rest => '\n' :: withLineFeeds rest
  | character :: rest => character :: withLineFeeds rest
  | [] => []

/-- The lines of an input. The last line need not be ended. -/
def inputLines
    (text : String) :
    List String :=
  let lines := splitAtEach (· = '\n') (withLineFeeds text.toList)
  let ended := if lines.getLast? = some [] then lines.dropLast else lines
  ended.map String.ofList

end Reckoner.Text
