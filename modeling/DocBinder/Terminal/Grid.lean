import DocBinder.Terminal.Wrap

/-!
# Grids

A table drawn with lines: heavy ones around the headings, light ones around the rows. Every column
is as wide as its widest cell. When all of them do not fit the terminal, the widest column is
narrowed, and its cells are broken or cut.
-/

namespace DocBinder.Terminal

open Text

/-- A column of a grid. -/
structure GridColumn where
  heading : String
  alignsRight : Bool
deriving DecidableEq, Repr, Inhabited

/-- The lines of a border: its left end, its stroke, its crossings and its right end. -/
structure Border where
  left : Char
  stroke : Char
  crossing : Char
  right : Char
deriving DecidableEq, Repr, Inhabited

/-- The border above the headings. -/
def topBorder : Border := ⟨'┏', '━', '┳', '┓'⟩

/-- The border below the headings. -/
def headBorder : Border := ⟨'┡', '━', '╇', '┩'⟩

/-- The border below the rows. -/
def bottomBorder : Border := ⟨'└', '─', '┴', '┘'⟩

/-- A border over columns of some widths, where a blank stands on both sides of a cell. -/
def Border.draw (border : Border) (widths : List Nat) : Text :=
  border.left :: join [border.crossing]
    (widths.map fun width => List.replicate (width + 2) border.stroke) ++ [border.right]

/-- A line of a cell filled up to a width. -/
def pad (alignsRight : Bool) (width : Nat) (line : Text) : Text :=
  let blanks := List.replicate (width - columns line) ' '
  if alignsRight then blanks ++ line else line ++ blanks

/-- The lines of a row, between strokes. -/
def drawRow (stroke : Char) (layout : List (GridColumn × Nat)) (cells : List Text) : List Text :=
  let wrapped := (layout.zip cells).map fun ((column, width), cell) =>
    (column.alignsRight, width, wrap width false cell)
  let height := (wrapped.map (·.2.2.length)).foldl max 1
  (List.range height).map fun number =>
    stroke :: wrapped.flatMap fun (alignsRight, width, cellLines) =>
      [' '] ++ pad alignsRight width (cellLines.getD number []) ++ [' ', stroke]

/-- The columns that a cell asks for. -/
def cellWidth (cell : Text) : Nat :=
  ((lines cell).map columns).foldl max 0

/-- The widths of the columns of rows: those that the cells ask for, but the widest one narrowed to
what the terminal leaves. -/
def gridWidths (rows : List (List Text)) (count : Nat) : List Nat :=
  let asked := (List.range count).map fun number =>
    (rows.map fun row => cellWidth (row.getD number [])).foldl max 0
  let excess := total (asked.map (· + 3)) + 1 - terminalColumns
  let widest := asked.foldl max 0
  asked.map fun width => if width == widest then width - excess else width

/-- A grid with headings and rows of messages. -/
def drawGrid (layout : List GridColumn) (rows : List (List String)) : Except Failure Text := do
  let headings ← layout.mapM fun column => shownText column.heading.toList
  let cells ← rows.mapM fun row => row.mapM fun cell => shownText cell.toList
  let widths := gridWidths (headings :: cells) layout.length
  let placed := layout.zip widths
  let drawn := [topBorder.draw widths] ++ drawRow '┃' placed headings ++ [headBorder.draw widths]
    ++ cells.flatMap (drawRow '│' placed) ++ [bottomBorder.draw widths]
  return drawn.flatMap fun line => line ++ ['\n']

end DocBinder.Terminal
