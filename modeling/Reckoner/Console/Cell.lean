import Reckoner.Console.Literal
import Reckoner.Text.Blank
import Reckoner.Text.Line

namespace Reckoner.Console

/-!
# Texts in the cells of a table

A column is as wide as the widest line of its cells, where a tab takes nothing. What a
cell holds is then laid out in that width: tabs become spaces, a line that is too long
breaks between words, a word that is too long loses its end to an ellipsis, and
each line is filled up with spaces.
-/

/-- On which side the text of a column stands. -/
inductive Alignment where
  | left
  | right
  deriving Repr, DecidableEq

/-- The width that a text asks for in a cell: that of its widest line. -/
def cellWidth
    (text : String) :
    Nat :=
  ((Text.splitAtEach Text.isLineBreak text.toList).map Text.width).foldl max 0

/-- A text without the blanks at its end. -/
def withoutEndBlanks
    (text : List Char) :
    List Char :=
  (text.reverse.dropWhile Text.isBlank).reverse

/-- The words of a line, each with the blanks after it; the first keeps those before it. -/
def words
    (line : List Char) :
    List (List Char) :=
  match line.splitBy fun left right => !Text.isBlank left || Text.isBlank right with
  | first :: second :: rest =>
      if first.all Text.isBlank then
        (first ++ second) :: rest
      else
        first :: second :: rest
  | pieces => pieces

/--
The lines that words make where a line of some cells has been begun.

A word goes on the line if it fits there, the blanks after it aside.
-/
def linesOfWords
    (width : Nat) :
    Nat →
    List Char →
    List (List Char) →
    List (List Char)
  | _, line, [] => [line]
  | cells, line, word :: rest =>
      if cells + Text.width (withoutEndBlanks word) ≤ width then
        linesOfWords width (cells + Text.width word) (line ++ word) rest
      else if line = [] then
        linesOfWords width (Text.width word) word rest
      else
        line :: linesOfWords width (Text.width word) word rest

/-- Breaking a line loses nothing of its words. -/
theorem flatten_linesOfWords
    (width cells : Nat)
    (line : List Char)
    (words : List (List Char)) :
    (linesOfWords width cells line words).flatten = line ++ words.flatten := by
  fun_induction linesOfWords width cells line words <;>
    simp_all [List.append_assoc]

/-- A line without blanks at its end that make it have more characters than a width. -/
def withoutExcessBlanks
    (width : Nat)
    (line : List Char) :
    List Char :=
  let blanks := line.length - (withoutEndBlanks line).length
  line.take (line.length - min blanks (line.length - width))

/-- The mark of a line that has lost its end. -/
def ellipsis : Char :=
  '…'

/-- A line cut to a width. -/
def truncated
    (width : Nat)
    (line : List Char) :
    List Char :=
  if Text.width line ≤ width then
    line
  else
    Text.cutTo (width - 1) line ++ [ellipsis]

/-- The spaces that a line lacks in a width. -/
def missingSpaces
    (width : Nat)
    (line : List Char) :
    List Char :=
  List.replicate (width - Text.width line) ' '

/-- A line filled up at its end to a width. -/
def filled
    (width : Nat)
    (line : List Char) :
    List Char :=
  line ++ missingSpaces width line

/-- A line on its side of a width. -/
def alignedLine
    (alignment : Alignment)
    (width : Nat)
    (line : List Char) :
    List Char :=
  match alignment with
  | .left => filled width (truncated width line)
  | .right =>
      let shown := truncated width (withoutEndBlanks line)
      missingSpaces width shown ++ shown

/--
The lines of a text in a cell.

A joiner at the end of a line swallows a space, so that the line is filled up again.
-/
def cellLines
    (alignment : Alignment)
    (width : Nat)
    (text : String) :
    List String :=
  (Text.splitAtEach (· = '\n') text.toList).flatMap fun line =>
    (linesOfWords width 0 [] (words (expandTabs line))).map fun part =>
      String.ofList
        (filled width
          (alignedLine alignment width (withoutExcessBlanks width part)))

end Reckoner.Console
