import Reckoner.Console.Emoji
import Reckoner.Text.Cluster
import Reckoner.Text.Line

namespace Reckoner.Console

/-!
# Text as the console shows it

The console reads tags in square brackets as styles, so text that is not meant as a
tag is protected before it is shown. What arrives on the screen is the text itself
but for these rules: a single backslash at the end is doubled, a backslash before a
bracket that starts no tag is lost, names of emoji that lie on one side of each tag
are replaced, some control characters are left out, and tabs become spaces up to the
next multiple of eight cells.
-/

/-- Whether a character may come right after the bracket of a tag. -/
def startsTagName
    (character : Char) :
    Bool :=
  ('a' ≤ character && character ≤ 'z') ||
    character = '#' || character = '/' || character = '@'

/-- Whether a tag follows an opening bracket. -/
def isTagAfterBracket : List Char → Bool
  | [] => false
  | first :: rest =>
      startsTagName first && (rest.takeWhile (· ≠ '[')).contains ']'

/-- Double a backslash that ends a text and stands alone. -/
def doubleLastBackslash
    (text : List Char) :
    List Char :=
  match text.reverse with
  | '\\' :: '\\' :: _ => text
  | '\\' :: _ => text ++ ['\\']
  | _ => text

/-- Leave out the backslash before each bracket that starts no tag. -/
def dropLostBackslashes : List Char → List Char
  | '\\' :: '[' :: rest =>
      if isTagAfterBracket rest then
        '\\' :: '[' :: dropLostBackslashes rest
      else
        '[' :: dropLostBackslashes rest
  | character :: rest => character :: dropLostBackslashes rest
  | [] => []

/-- The pieces of the rest of a text, of which the first may be within a tag. -/
def piecesFrom
    (inTag : Bool) :
    List Char →
    List (List Char)
  | [] => [[]]
  | character :: rest =>
      if inTag && character = ']' then
        [character] :: piecesFrom false rest
      else if !inTag && character = '[' && isTagAfterBracket rest then
        [] :: Text.withInFirst character (piecesFrom true rest)
      else
        Text.withInFirst character (piecesFrom inTag rest)

/-- The tags of a text and what stands between them. -/
def pieces
    (text : List Char) :
    List (List Char) :=
  piecesFrom false text

/-- Nothing of the rest of a text is lost in its pieces. -/
theorem flatten_piecesFrom
    (inTag : Bool)
    (text : List Char) :
    (piecesFrom inTag text).flatten = text := by
  fun_induction piecesFrom inTag text <;>
    simp_all [Text.flatten_withInFirst]

/-- The pieces of a text make up the text. -/
theorem flatten_pieces
    (text : List Char) :
    (pieces text).flatten = text :=
  flatten_piecesFrom false text

/-- The control characters that the console leaves out. -/
def droppedControls : List Char :=
  ['\x07', '\x08', '\x0b', '\x0c', '\r']

/-- The cells between two tab stops. -/
def tabWidth : Nat :=
  8

/-- Spaces from a cell on to the next tab stop, unless the cell is one. -/
def spacesToStop
    (cell : Nat) :
    List Char :=
  List.replicate ((tabWidth - cell % tabWidth) % tabWidth) ' '

/--
The text between tabs, put together from a cell on.

A tab becomes a space and further ones up to the next tab stop.
-/
def joinAtStops
    (cell : Nat) :
    List (List Char) →
    List Char
  | [] => []
  | [last] => last
  | part :: rest =>
      let spaced := part ++ [' ']
      let reached := cell + Text.width spaced
      let spaces := spacesToStop reached
      spaced ++ spaces ++ joinAtStops (reached + spaces.length) rest

/-- A line with spaces instead of tabs. -/
def expandTabs
    (line : List Char) :
    List Char :=
  joinAtStops 0 (Text.splitAtEach (· = '\t') line)

/-- A text as the console understands it, before tabs are replaced. -/
def literal
    (text : String) :
    String :=
  let shown :=
    (pieces (dropLostBackslashes (doubleLastBackslash text.toList))).flatMap
      replaceEmoji
  String.ofList
    (shown.filter fun character => !droppedControls.contains character)

/-- A text as it stands on the screen, line by line. -/
def onScreen
    (text : String) :
    String :=
  "\n".intercalate
    ((Text.splitAtEach (· = '\n') text.toList).map fun line =>
      String.ofList (expandTabs line))

end Reckoner.Console
