import DocBinder.Markdown.Span

/-!
# Blocks

The units a Markdown document is made of. Every block keeps the lines it was read from; its text
parts have their inline markers removed and carry the spans of styled text beside them.
-/

namespace DocBinder

/-- A text without inline markers, with its spans. -/
structure StyledText where
  text : Text
  spans : List Span
deriving DecidableEq, Repr, Inhabited

/-- The cells of a table: a header row and body rows, and per row and column the spans of the
cell's text, the header's first. -/
structure Grid where
  headers : List Text
  rows : List (List Text)
  cellSpans : List (List (List Span))
deriving DecidableEq, Repr, Inhabited

namespace Grid

/-- The number of rows, the header included. -/
def rowCount (grid : Grid) : Nat :=
  grid.rows.length + 1

/-- The number of columns, which the header decides. -/
def columnCount (grid : Grid) : Nat :=
  grid.headers.length

/-- The cells of a row, where row zero is the header. -/
def row? (grid : Grid) : Nat → Option (List Text)
  | 0 => some grid.headers
  | index + 1 => grid.rows[index]?

/-- The text of a cell; a short row is filled up with empty cells, and so is a row that does not
exist. -/
def cellText (grid : Grid) (row column : Nat) : Text :=
  ((grid.row? row).getD []).getD column []

/-- The spans of a cell's text. -/
def spans (grid : Grid) (row column : Nat) : List Span :=
  (grid.cellSpans.getD row []).getD column []

end Grid

/-- A block of a Markdown document. `source` holds the lines it was read from. -/
inductive Block where
  /-- A heading; a level beyond six has no style of its own. -/
  | heading (source : Text) (level : Int) (text : Text)
  /-- The content of a closed code fence. -/
  | code (source : Text) (language : Option Text) (text : Text)
  | list (source : Text) (ordered : Bool) (items : List StyledText)
  | table (source : Text) (grid : Grid)
  | paragraph (source : Text) (content : StyledText)
  /-- A line that holds nothing but the token of an image or a diagram. -/
  | placeholder (source : Text) (token : Text)
  /-- A diagram that was not rendered, so that no token stands for it. -/
  | diagram (source : Text) (language : Option Text) (text : Text)
deriving DecidableEq, Repr, Inhabited

/-- The lines a block was read from. -/
def Block.source : Block → Text
  | .heading source .. => source
  | .code source .. => source
  | .list source .. => source
  | .table source .. => source
  | .paragraph source .. => source
  | .placeholder source .. => source
  | .diagram source .. => source

end DocBinder
