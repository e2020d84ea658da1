import Reckoner.Console.Cell

namespace Reckoner.Console

/-!
# Tables on the console

A grid has a heading for each column and rows of cells. Columns are as wide as their
widest cell, with a space on either side, between lines of box characters. A title
is centred over the grid; of an odd number of spaces the larger part goes right.
-/

/-- A column: its heading and where its text stands. -/
structure Column where
  heading : String
  alignment : Alignment
  deriving Repr, DecidableEq

/-- A table to be shown. -/
structure Grid where
  title : Option String
  columns : List Column
  rows : List (List String)
  deriving Repr, DecidableEq

/-- A number of spaces. -/
def spaces
    (count : Nat) :
    String :=
  String.ofList (List.replicate count ' ')

/-- A line of one box character. -/
def rule
    (character : Char)
    (count : Nat) :
    String :=
  String.ofList (List.replicate count character)

/-- A text in the middle of a width. -/
def centred
    (width : Nat)
    (text : String) :
    String :=
  let missing := width - Text.width text.toList
  spaces (missing / 2) ++ text ++ spaces (missing - missing / 2)

namespace Grid

/-- The width of the text in the columns. -/
def widths
    (grid : Grid) :
    List Nat :=
  grid.columns.zipIdx.map fun (column, index) =>
    grid.rows.foldl
      (fun width row => max width (cellWidth ((row[index]?).getD "")))
      (cellWidth column.heading)

/-- A horizontal line with the given ends, joints and filling. -/
def border
    (first : String)
    (filling : Char)
    (joint last : String)
    (widths : List Nat) :
    String :=
  first ++ joint.intercalate (widths.map fun width => rule filling (width + 2)) ++
    last

/-- A line of texts between vertical bars. -/
def barred
    (bar : String)
    (texts : List String) :
    String :=
  bar ++ bar.intercalate (texts.map fun text => " " ++ text ++ " ") ++ bar

/--
The lines of a row of cells.

A row has as many lines as its longest cell; below a shorter one there is space.
-/
def rowLines
    (bar : String)
    (columns : List Column)
    (widths : List Nat)
    (cells : List String) :
    List String :=
  let laidOut :=
    ((columns.zip widths).zip cells).map fun ((column, width), cell) =>
      (width, cellLines column.alignment width cell)
  let height := (laidOut.map fun cell => cell.2.length).foldl max 0
  (List.range height).map fun index =>
    barred bar (laidOut.map fun (width, lines) =>
      (lines[index]?).getD (spaces width))

/-- The lines of a grid from top to bottom. -/
def lines
    (grid : Grid) :
    List String :=
  let widths := grid.widths
  let total := widths.foldl (fun total width => total + (width + 3)) 1
  let title :=
    match grid.title with
    | none => []
    | some title => [centred total title]
  title ++
    [border "┏" '━' "┳" "┓" widths] ++
    rowLines "┃" grid.columns widths (grid.columns.map Column.heading) ++
    [border "┡" '━' "╇" "┩" widths] ++
    grid.rows.flatMap (rowLines "│" grid.columns widths) ++
    [border "└" '─' "┴" "┘" widths]

/-- The text of a grid, each line ended. -/
def text
    (grid : Grid) :
    String :=
  String.join (grid.lines.map (· ++ "\n"))

end Grid

end Reckoner.Console
