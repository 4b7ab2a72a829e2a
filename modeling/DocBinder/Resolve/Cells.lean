import DocBinder.Compile
import DocBinder.Docs.Snapshot
import DocBinder.Resolve.Unresolved

/-!
# Filling tables

Tables are inserted empty, and only the service knows where their cells are. The new tables of a
snapshot are paired with their specifications in order, after those that earlier documents left.
The cells of one snapshot are filled in a single batch from the highest index down, so that no
insertion moves a later one; the styles of the cells' texts follow in the same batch, at the places
where the texts are once all of them are in.
-/

namespace DocBinder

open Docs

/-- A text to insert at the start of a cell. -/
structure CellInsert where
  table : Nat
  row : Nat
  column : Nat
  index : Nat
  text : Text
  spans : List Span
deriving DecidableEq, Repr, Inhabited

/-- The cell inserts of a document and what was reported while they were located. -/
structure CellPlan where
  inserts : List CellInsert
  log : List Log.Line
deriving Repr, Inhabited

/-- The start of a cell's first paragraph, or why the cell has none. -/
def cellIndex (rows : List (List Cell)) (row column : Nat) : Except String Nat :=
  match cellAt? rows row column with
  | none => .error "cell missing from table structure"
  | some cell =>
      match cell.firstParagraph? with
      | none => .error "cell has no paragraph"
      | some index => .ok index

/-- The insert for one cell; an empty cell needs none. -/
def locateCell (number : Nat) (grid : Grid) (rows : List (List Cell)) (row column : Nat) :
    CellPlan :=
  let text := grid.cellText row column
  if text.isEmpty then ⟨[], []⟩
  else
    match cellIndex rows row column with
    | .ok index => ⟨[⟨number, row, column, index, text, grid.spans row column⟩], []⟩
    | .error reason =>
        let report : Unresolved := ⟨text, reason, none⟩
        ⟨[], [⟨.warning, .cells,
          s!"Skipping table {number} cell ({row}, {column}): {report.message}"⟩]⟩

/-- The cells of a grid, row by row. -/
def Grid.positions (grid : Grid) : List (Nat × Nat) :=
  (List.range grid.rowCount).flatMap fun row =>
    (List.range grid.columnCount).map fun column => (row, column)

/-- The inserts for one table, row by row. -/
def locateTable (number : Nat) (grid : Grid) (table : Element) : CellPlan :=
  let plans := grid.positions.map fun (row, column) =>
    locateCell number grid (table.rows?.getD []) row column
  ⟨plans.flatMap (·.inserts), plans.flatMap (·.log)⟩

/-- The report that the number of new tables is not the expected one. -/
def pairingLog (specs : List TableSpec) (found : List Element) (existing : Nat) : List Log.Line :=
  if found.length == specs.length then []
  else [⟨.warning, .cells,
    s!"Expected {specs.length} new table(s) but found {found.length} after skipping {existing} "
      ++ s!"existing; pairing the first {min found.length specs.length}"⟩]

/-- The inserts for the tables of a document, from the highest index down. `existing` tables stood
in the body before. -/
def locateCells (specs : List TableSpec) (snapshot : Snapshot) (existing : Nat) : CellPlan :=
  if specs.isEmpty then ⟨[], []⟩
  else
    let found := snapshot.tables.drop existing
    let plans := ((specs.zip found).zipIdx).map fun ((spec, table), number) =>
      locateTable number spec.grid table
    ⟨(plans.flatMap (·.inserts)).reverse,
      pairingLog specs found existing ++ plans.flatMap (·.log)⟩

/-- The styles of a cell's spans, when its text begins at `start`. -/
def CellInsert.styles (insert : CellInsert) (start : Nat) : List Request :=
  (insert.spans.filter fun span => span.start < span.stop).map fun span =>
    .styleText (start + Text.width (insert.text.take span.start))
      (start + Text.width (insert.text.take span.stop)) (.ofSpan span.style)

/-- The styles of cells from the lowest index up, when earlier inserts have moved them by
`shift`. -/
def cellStyles (shift : Nat) : List CellInsert → List Request
  | [] => []
  | insert :: rest =>
      insert.styles (insert.index + shift) ++ cellStyles (shift + Text.width insert.text) rest

/-- The requests that fill cells: the texts in the given order, then their styles. -/
def cellRequests (inserts : List CellInsert) : List Request :=
  inserts.map (fun insert => .insertText insert.text (.at insert.index))
    ++ cellStyles 0 inserts.reverse

end DocBinder
