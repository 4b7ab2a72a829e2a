import DocBinder.Proofs.Buffer.View
import DocBinder.Proofs.Content.Slots

/-!
# The cells of new tables

The content batch of a document leaves its tables empty. This file says which tables a snapshot
then shows behind those of earlier documents, at which index each of their cells begins, and that
the inserts which are located for a table fill the slots of its cells and no other place.
-/

namespace DocBinder

open Docs

/-! ## The units of tables -/

/-- The units of a table whose cells hold the texts of a grid, each with a line feed behind it. -/
def Grid.units (grid : Grid) : Buffer :=
  .tableStart :: ((List.range grid.rowCount).flatMap fun row =>
    .rowStart :: (List.range grid.columnCount).flatMap fun column =>
      .cellStart :: ((grid.cellText row column).map .char ++ [BodyUnit.lineFeed])) ++ [.tableEnd]

/-- The rows of a table without texts. -/
def blankRows (rows columns : Nat) : List (List (List Buffer)) :=
  List.replicate rows (List.replicate columns [[BodyUnit.lineFeed]])

theorem isCell_blank (rows columns : Nat) :
    ∀ row ∈ blankRows rows columns, ∀ cell ∈ row, IsCell cell := by
  intro row rowMem cell cellMem
  rw [List.eq_of_mem_replicate rowMem] at cellMem
  rw [List.eq_of_mem_replicate cellMem]
  refine ⟨by simp, ?_⟩
  intro paragraph mem
  rw [List.mem_singleton.mp mem]
  exact isParagraph_lineFeed

theorem emptyRow_eq (columns : Nat) :
    Buffer.emptyRow columns = rowUnits (List.replicate columns [[BodyUnit.lineFeed]]) := by
  rw [Buffer.emptyRow, rowUnits, List.flatMap_def, List.map_replicate]
  rfl

/-- An inserted table is a line feed and a table without texts. -/
theorem emptyTable_eq (rows columns : Nat) :
    Buffer.emptyTable rows columns =
      .lineFeed :: (BodyPart.table (blankRows rows columns)).units := by
  rw [Buffer.emptyTable, BodyPart.units, blankRows, List.flatMap_def, List.map_replicate,
    emptyRow_eq]
  rfl

/-! ## Where cells begin -/

/-- The index units of a row without texts. -/
def rowWidth (columns : Nat) : Nat :=
  1 + columns * 2

theorem cellsWidth_blank (columns : Nat) :
    cellsWidth (List.replicate columns [[BodyUnit.lineFeed]]) = columns * 2 := by
  induction columns with
  | zero => rfl
  | succ columns step =>
      have cons : cellsWidth ([[BodyUnit.lineFeed]] :: List.replicate columns [[BodyUnit.lineFeed]]) =
          2 + cellsWidth (List.replicate columns [[BodyUnit.lineFeed]]) := rfl
      rw [List.replicate_succ, cons, step]
      omega

theorem rowsWidth_blank (rows columns : Nat) :
    rowsWidth (blankRows rows columns) = rows * rowWidth columns := by
  induction rows with
  | zero => simp [blankRows, rowsWidth]
  | succ rows step =>
      have cons : rowsWidth (blankRows (rows + 1) columns) =
          1 + cellsWidth (List.replicate columns [[BodyUnit.lineFeed]]) +
            rowsWidth (blankRows rows columns) := rfl
      rw [cons, step, cellsWidth_blank, Nat.succ_mul, rowWidth]
      omega

/-- The first paragraph of a cell of a table without texts, whose marker stands at `index`. -/
theorem cellIndex_blank {rows columns row column : Nat} (rowBelow : row < rows)
    (columnBelow : column < columns) (index : Nat) :
    cellIndex (rowList (index + 1) (blankRows rows columns)) row column =
      .ok (index + 1 + row * rowWidth columns + 1 + column * 2 + 1) := by
  have takenRows : (blankRows rows columns).take row = blankRows row columns := by
    rw [blankRows, List.take_replicate, Nat.min_eq_left (by omega), blankRows]
  have takenCells : (List.replicate columns [[BodyUnit.lineFeed]]).take column =
      List.replicate column [[BodyUnit.lineFeed]] := by
    rw [List.take_replicate, Nat.min_eq_left (by omega)]
  have rowFound : (blankRows rows columns)[row]? = some (List.replicate columns [[BodyUnit.lineFeed]]) :=
    List.getElem?_replicate_of_lt rowBelow
  rw [cellIndex, cellAt?, getElem?_rowList, rowFound, takenRows, rowsWidth_blank, Option.map_some,
    Option.bind_some, getElem?_cellList, List.getElem?_replicate_of_lt columnBelow, takenCells,
    cellsWidth_blank]
  rfl

/-! ## The slots of a table -/

/-- The slot of a cell. -/
def cellSlot (grid : Grid) (row column : Nat) : Slot :=
  ⟨[.cellStart], grid.cellText row column, grid.spans row column, [BodyUnit.lineFeed]⟩

/-- The slots of a row. -/
def rowSlots (grid : Grid) (row : Nat) : List Slot :=
  .fixed [.rowStart] :: (List.range grid.columnCount).map (cellSlot grid row)

/-- The slots of a table and of the line feed before it. -/
def tableSlots (grid : Grid) : List Slot :=
  .fixed [.lineFeed, .tableStart] ::
    ((List.range grid.rowCount).flatMap (rowSlots grid) ++ [.fixed [.tableEnd]])

theorem flatMap_empty_rowSlots (grid : Grid) (row : Nat) :
    (rowSlots grid row).flatMap Slot.empty = Buffer.emptyRow grid.columnCount := by
  have cells : ∀ columns, ((List.range columns).map (cellSlot grid row)).flatMap Slot.empty =
      (List.replicate columns [BodyUnit.cellStart, .lineFeed]).flatten := by
    intro columns
    induction columns with
    | zero => rfl
    | succ columns step =>
        rw [List.range_succ, List.map_append, List.flatMap_append, step,
          List.replicate_succ', List.flatten_append]
        rfl
  rw [rowSlots, List.flatMap_cons, cells]
  rfl

theorem flatMap_empty_tableSlots (grid : Grid) :
    (tableSlots grid).flatMap Slot.empty =
      Buffer.emptyTable grid.rowCount grid.columnCount := by
  have rows : ∀ count, ((List.range count).flatMap (rowSlots grid)).flatMap Slot.empty =
      (List.replicate count (Buffer.emptyRow grid.columnCount)).flatten := by
    intro count
    induction count with
    | zero => rfl
    | succ count step =>
        rw [List.range_succ, List.flatMap_append, List.flatMap_append, step,
          List.flatMap_singleton, flatMap_empty_rowSlots, List.replicate_succ',
          List.flatten_append, List.flatten_singleton]
  rw [tableSlots, List.flatMap_cons, List.flatMap_append, rows]
  rfl

theorem flatMap_filled_rowSlots (grid : Grid) (row : Nat) :
    (rowSlots grid row).flatMap Slot.filled =
      .rowStart :: (List.range grid.columnCount).flatMap fun column =>
        .cellStart :: ((grid.cellText row column).map .char ++ [BodyUnit.lineFeed]) := by
  rw [rowSlots, List.flatMap_cons, List.flatMap_map]
  rfl

/-- Filled, the slots are the table of the grid. -/
theorem flatMap_filled_tableSlots (grid : Grid) :
    (tableSlots grid).flatMap Slot.filled = .lineFeed :: grid.units := by
  rw [tableSlots, List.flatMap_cons, List.flatMap_append, List.flatMap_assoc]
  simp only [flatMap_filled_rowSlots]
  rfl

/-- The spans of a grid lie within the texts of its cells. -/
def Grid.SpansFit (grid : Grid) : Prop :=
  ∀ row column, ∀ span ∈ grid.spans row column, span.stop ≤ (grid.cellText row column).length

theorem placed_fixed (index : Nat) (units : Buffer) : Placed index [.fixed units] [] :=
  .skip rfl (.nil _)

/-- The insert that is located for a cell fills the slot of the cell. -/
theorem placed_locateCell {grid : Grid} (spansFit : grid.SpansFit) {row column : Nat}
    (rowBelow : row < grid.rowCount) (columnBelow : column < grid.columnCount)
    (number index : Nat) :
    Placed (index + 1 + row * rowWidth grid.columnCount + 1 + column * 2)
      [cellSlot grid row column]
      (locateCell number grid (rowList (index + 1) (blankRows grid.rowCount grid.columnCount))
        row column).inserts := by
  have located := cellIndex_blank rowBelow columnBelow index
  by_cases blank : grid.cellText row column = []
  · simp only [locateCell, blank, List.isEmpty_nil, if_true]
    exact .skip blank (.nil _)
  · have notEmpty : (grid.cellText row column).isEmpty = false := by
      simpa using blank
    simp only [locateCell, notEmpty, Bool.false_eq_true, if_false, located]
    exact .put rfl rfl rfl (by simp [cellSlot]) (spansFit row column) (.nil _)

/-- The inserts that are located for a table fill the slots of its cells, in the order of the
buffer. -/
theorem placed_locateTable {grid : Grid} (spansFit : grid.SpansFit) (number index : Nat)
    {rows : List (List Cell)} {start stop : Nat}
    (isBlank : rows = rowList (index + 2) (blankRows grid.rowCount grid.columnCount)) :
    Placed index (tableSlots grid) (locateTable number grid (.table start stop rows)).inserts := by
  subst rows
  have rowWidthEq : ∀ row, Buffer.width ((rowSlots grid row).flatMap Slot.empty) =
      rowWidth grid.columnCount := by
    intro row
    rw [flatMap_empty_rowSlots, emptyRow_eq, rowUnits, Buffer.width_cons, ← cellsWidth_eq,
      cellsWidth_blank]
    rfl
  have placedRow : ∀ row < grid.rowCount, Placed (index + 2 + row * rowWidth grid.columnCount)
      (rowSlots grid row)
      ((List.range grid.columnCount).flatMap fun column =>
        (locateCell number grid
          (rowList (index + 1 + 1) (blankRows grid.rowCount grid.columnCount)) row column).inserts)
        := by
    intro row rowBelow
    have cells := (Placed.flatMap_range (fun column => [cellSlot grid row column])
      (fun column columnBelow =>
        placed_locateCell spansFit rowBelow columnBelow number (index + 1))
      (fun column => rfl)).1
    rw [← List.map_eq_flatMap] at cells
    exact .skip rfl cells
  have allRows := Placed.flatMap_range (rowSlots grid) placedRow rowWidthEq
  have inserts : (locateTable number grid (.table start stop
      (rowList (index + 2) (blankRows grid.rowCount grid.columnCount)))).inserts =
      [] ++ (((List.range grid.rowCount).flatMap fun row =>
        (List.range grid.columnCount).flatMap fun column =>
          (locateCell number grid
            (rowList (index + 1 + 1) (blankRows grid.rowCount grid.columnCount))
            row column).inserts) ++ []) := by
    simp [locateTable, Grid.positions, Element.rows?, List.flatMap_map, List.flatMap_assoc]
  rw [inserts]
  exact (placed_fixed index [.lineFeed, .tableStart]).append
    (allRows.1.append (placed_fixed _ [.tableEnd]))

end DocBinder
