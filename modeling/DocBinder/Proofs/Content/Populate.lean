import DocBinder.Proofs.Sync.Runs

/-!
# Which cell gets which text

Beyond the units that the filled tables come to, this file says what their cells are. The tables of a
document are seen in two snapshots, empty and filled; in both, each cell begins behind the texts of
the cells before it. Inserts are located in the one, and their styles are meant for the other, so that
the two indices of a cell must differ by the texts that are inserted before it. That is what the sum
carried along the styles counts.
-/

namespace DocBinder

open Docs

/-! ## Cells and their texts -/

namespace Docs

/-- The paragraphs of a cell with a text. -/
def textCell (text : Text) : List Buffer :=
  paragraphsOf (text.map .char ++ [BodyUnit.lineFeed])

theorem flatten_paragraphsOf (units : Buffer) : (paragraphsOf units).flatten = units := by
  induction units with
  | nil => rfl
  | cons unit rest step =>
      rw [paragraphsOf]
      split
      · rw [List.flatten_cons, step]
        rfl
      · split
        · rename_i paragraph following cut
          rw [cut, List.flatten_cons] at step
          rw [List.flatten_cons, List.cons_append, step]
        · rename_i cut
          rw [cut] at step
          rw [← step]
          rfl

theorem isCell_textCell (text : Text) : IsCell (textCell text) := by
  induction text with
  | nil =>
      refine ⟨by simp [textCell, paragraphsOf], fun paragraph mem => ?_⟩
      rw [List.mem_singleton.mp mem]
      exact isParagraph_lineFeed
  | cons character rest step =>
      rcases step with ⟨nonempty, areParagraphs⟩
      rw [textCell, List.map_cons, List.cons_append, paragraphsOf, ← textCell]
      split
      · rename_i isFeed
        rw [beq_iff_eq.mp isFeed]
        refine ⟨by simp, fun paragraph mem => ?_⟩
        rcases List.mem_cons.mp mem with rfl | mem
        · exact isParagraph_lineFeed
        · exact areParagraphs paragraph mem
      · rename_i notFeed
        split
        · rename_i paragraph following cut
          rw [cut] at areParagraphs
          refine ⟨by simp, fun other mem => ?_⟩
          rcases List.mem_cons.mp mem with rfl | mem
          · exact isParagraph_cons rfl (by simpa using notFeed)
              (areParagraphs paragraph List.mem_cons_self)
          · exact areParagraphs other (List.mem_cons_of_mem _ mem)
        · rename_i cut
          exact absurd cut nonempty

theorem paragraphsWidth_textCell (text : Text) :
    paragraphsWidth (textCell text) = Text.width text + 1 := by
  rw [paragraphsWidth_eq, textCell, flatten_paragraphsOf, Buffer.width_append, Buffer.width_chars]
  rfl

end Docs

/-! ## Tables with texts -/

/-- The cells of a row with texts. -/
def textRow (columns : Nat) (text : Nat → Text) : List (List Buffer) :=
  (List.range columns).map fun column => textCell (text column)

/-- The rows of a table with texts. -/
def textRows (rows columns : Nat) (text : Nat → Nat → Text) : List (List (List Buffer)) :=
  (List.range rows).map fun row => textRow columns (text row)

/-- The index units of the texts of a row. -/
def rowTextWidth (columns : Nat) (text : Nat → Text) : Nat :=
  total ((List.range columns).map fun column => Text.width (text column))

/-- The index units of the texts of a table. -/
def tableTextWidth (rows columns : Nat) (text : Nat → Nat → Text) : Nat :=
  total ((List.range rows).map fun row => rowTextWidth columns (text row))

/-- The index of the text of a cell, in a table whose marker stands at an index. -/
def textIndex (columns : Nat) (text : Nat → Nat → Text) (index row column : Nat) : Nat :=
  index + 1 + rowsWidth (textRows row columns text) + 1 + cellsWidth (textRow column (text row)) + 1

theorem isCell_textRows (rows columns : Nat) (text : Nat → Nat → Text) :
    ∀ row ∈ textRows rows columns text, ∀ cell ∈ row, IsCell cell := by
  intro row rowMem cell cellMem
  rcases List.mem_map.mp rowMem with ⟨number, _, rfl⟩
  rcases List.mem_map.mp cellMem with ⟨column, _, rfl⟩
  exact isCell_textCell _

theorem cellsWidth_textRow (columns : Nat) (text : Nat → Text) :
    cellsWidth (textRow columns text) = columns * 2 + rowTextWidth columns text := by
  induction columns with
  | zero => rfl
  | succ columns step =>
      rw [cellsWidth, textRow] at step
      rw [cellsWidth, rowTextWidth, textRow, List.range_succ, List.map_append, List.map_append,
        List.map_append, total_append, total_append, step, rowTextWidth]
      simp only [List.map_cons, List.map_nil, total_cons, total_nil, paragraphsWidth_textCell]
      omega

theorem rowsWidth_textRows (rows columns : Nat) (text : Nat → Nat → Text) :
    rowsWidth (textRows rows columns text) =
      rows * rowWidth columns + tableTextWidth rows columns text := by
  induction rows with
  | zero => simp [textRows, rowsWidth, tableTextWidth]
  | succ rows step =>
      rw [rowsWidth, textRows] at step
      rw [rowsWidth, tableTextWidth, textRows, List.range_succ, List.map_append, List.map_append,
        List.map_append, total_append, total_append, step, tableTextWidth]
      simp only [List.map_cons, List.map_nil, total_cons, total_nil, cellsWidth_textRow, rowWidth,
        Nat.succ_mul]
      omega

/-- The texts of the cells before it are what moves the text of a cell. -/
theorem textIndex_eq (columns : Nat) (text : Nat → Nat → Text) (index row column : Nat) :
    textIndex columns text index row column =
      index + 1 + row * rowWidth columns + 1 + column * 2 + 1 +
        (tableTextWidth row columns text + rowTextWidth column (text row)) := by
  rw [textIndex, rowsWidth_textRows, cellsWidth_textRow]
  omega

/-- The cell that a table with texts has at a row and a column. -/
theorem exists_cell_textRows {rows columns row column : Nat} (rowBelow : row < rows)
    (columnBelow : column < columns) (text : Nat → Nat → Text) (index : Nat) :
    ∃ cell, cellAt? (rowList (index + 1) (textRows rows columns text)) row column = some cell ∧
      cell.firstParagraph? = some (textIndex columns text index row column) ∧
      cell.marks true =
        placeChars (textIndex columns text index row column) (text row column ++ ['\n']) := by
  have takenRows : (textRows rows columns text).take row = textRows row columns text := by
    rw [textRows, ← List.map_take, List.take_range, Nat.min_eq_left (by omega), textRows]
  have takenCells : (textRow columns (text row)).take column = textRow column (text row) := by
    rw [textRow, ← List.map_take, List.take_range, Nat.min_eq_left (by omega), textRow]
  have rowFound : (textRows rows columns text)[row]? = some (textRow columns (text row)) := by
    rw [textRows, List.getElem?_map, List.getElem?_range rowBelow]
    rfl
  have cellFound : (textRow columns (text row))[column]? = some (textCell (text row column)) := by
    rw [textRow, List.getElem?_map, List.getElem?_range columnBelow]
    rfl
  rw [cellAt?, getElem?_rowList, rowFound, takenRows, Option.map_some, Option.bind_some,
    getElem?_cellList, cellFound, takenCells, Option.map_some]
  refine ⟨_, rfl, ?_, ?_⟩
  · rcases isCell_textCell (text row column) with ⟨nonempty, _⟩
    rw [Cell.firstParagraph?, Cell.content]
    cases cut : textCell (text row column) with
    | nil => exact absurd cut nonempty
    | cons paragraph rest => rfl
  · rw [Cell.marks, elementsMarks_paragraphList, textCell, flatten_paragraphsOf, textIndex,
      ← unitMarks_chars, List.map_append]
    rfl

theorem blankRows_eq (rows columns : Nat) :
    blankRows rows columns = textRows rows columns fun _ _ => [] := by
  have row : textRow columns (fun _ => []) = List.replicate columns [[BodyUnit.lineFeed]] := by
    rw [textRow, List.map_const', List.length_range]
    rfl
  rw [textRows, List.map_const', List.length_range, row, blankRows]

/-- The table of a grid, as the units of its cells. -/
theorem Grid.units_eq (grid : Grid) :
    grid.units = (BodyPart.table (textRows grid.rowCount grid.columnCount grid.cellText)).units := by
  have cell (text : Text) : cellUnits (textCell text) =
      .cellStart :: (text.map .char ++ [BodyUnit.lineFeed]) := by
    rw [cellUnits, textCell, flatten_paragraphsOf]
  simp only [Grid.units, BodyPart.units, textRows, textRow, List.flatMap_map, rowUnits, cell,
    List.cons_append]

/-! ## Inserts and the styles behind them -/

/-- What an insert is for, wherever that stands: its table, row and column, its text and its spans. -/
def CellInsert.content (insert : CellInsert) : Nat × Nat × Nat × Text × List Span :=
  (insert.table, insert.row, insert.column, insert.text, insert.spans)

/-- The index units that inserts add. -/
def insertsWidth (inserts : List CellInsert) : Nat :=
  total (inserts.map fun insert => Text.width insert.text)

/-- The text of each insert is placed where it is once the inserts before it have moved it, besides a
shift from the start. -/
inductive Shifted (place : CellInsert → Nat) : Nat → List CellInsert → Prop where
  | nil (shift : Nat) : Shifted place shift []
  | cons {shift : Nat} {insert : CellInsert} {inserts : List CellInsert}
      (here : place insert = insert.index + shift)
      (following : Shifted place (shift + Text.width insert.text) inserts) :
      Shifted place shift (insert :: inserts)

namespace Shifted

variable {place other : CellInsert → Nat} {shift : Nat} {inserts first second : List CellInsert}

/-- Styles are sent for where the texts are placed. -/
theorem cellStyles_eq (shifted : Shifted place shift inserts) :
    cellStyles shift inserts = inserts.flatMap fun insert => insert.styles (place insert) := by
  induction shifted with
  | nil shift => rfl
  | cons here following step => rw [cellStyles, List.flatMap_cons, step, here]

theorem congr (shifted : Shifted place shift inserts)
    (same : ∀ insert ∈ inserts, other insert = place insert) : Shifted other shift inserts := by
  induction shifted with
  | nil shift => exact .nil shift
  | cons here following step =>
      exact .cons ((same _ List.mem_cons_self).trans here)
        (step fun insert mem => same insert (List.mem_cons_of_mem _ mem))

theorem append (begins : Shifted place shift first)
    (follows : Shifted place (shift + insertsWidth first) second) :
    Shifted place shift (first ++ second) := by
  induction begins with
  | nil shift => exact follows
  | cons here following step =>
      refine .cons here (step ?_)
      rwa [insertsWidth, List.map_cons, total_cons, ← Nat.add_assoc] at follows

theorem flatMap_range {count : Nat} {inserts : Nat → List CellInsert} (width : Nat → Nat)
    (each : ∀ number < count,
      Shifted place (shift + total ((List.range number).map width)) (inserts number))
    (widths : ∀ number < count, insertsWidth (inserts number) = width number) :
    Shifted place shift ((List.range count).flatMap inserts) ∧
      insertsWidth ((List.range count).flatMap inserts) = total ((List.range count).map width) := by
  induction count with
  | zero => exact ⟨.nil shift, rfl⟩
  | succ count step =>
      rcases step (fun number below => each number (by omega))
        (fun number below => widths number (by omega)) with ⟨shifted, sum⟩
      have last := widths count (by omega)
      rw [List.range_succ, List.flatMap_append, List.flatMap_singleton, List.map_append]
      refine ⟨shifted.append ?_, ?_⟩
      · rw [sum]
        exact each count (by omega)
      · rw [insertsWidth] at sum last
        rw [insertsWidth, List.map_append, total_append, total_append, sum, last]
        rfl

end Shifted

section Table

variable (grid : Grid) (number index : Nat)

/-- What the cells of a grid are to be filled with, row by row: one entry for every cell that has a
text. -/
def Grid.contents : List (Nat × Nat × Nat × Text × List Span) :=
  (grid.positions.filter fun (row, column) => !(grid.cellText row column).isEmpty).map
    fun (row, column) => (number, row, column, grid.cellText row column, grid.spans row column)

/-- The insert for a cell of a blank table whose marker stands at an index, if the cell has a text. -/
def cellInserts (row column : Nat) : List CellInsert :=
  if (grid.cellText row column).isEmpty then []
  else [⟨number, row, column, index + 1 + row * rowWidth grid.columnCount + 1 + column * 2 + 1,
    grid.cellText row column, grid.spans row column⟩]

/-- The inserts for the cells of a blank table whose marker stands at an index, row by row. -/
def Grid.inserts : List CellInsert :=
  (List.range grid.rowCount).flatMap fun row =>
    (List.range grid.columnCount).flatMap (cellInserts grid number index row)

/-- The inserts that are located for a table are those of its cells with texts. -/
theorem inserts_locateTable (start stop : Nat) :
    (locateTable number grid (.table start stop
        (rowList (index + 1) (blankRows grid.rowCount grid.columnCount)))).inserts =
      grid.inserts number index := by
  have cell (row : Nat) (rowBelow : row < grid.rowCount) (column : Nat)
      (columnBelow : column < grid.columnCount) :
      (locateCell number grid (rowList (index + 1)
        (blankRows grid.rowCount grid.columnCount)) row column).inserts =
        cellInserts grid number index row column := by
    rw [locateCell, cellInserts, cellIndex_blank rowBelow columnBelow]
    split <;> rfl
  simp only [locateTable, Grid.positions, Element.rows?, Option.getD_some, List.flatMap_map,
    List.flatMap_assoc, Grid.inserts]
  refine List.flatMap_congr fun row rowMem => List.flatMap_congr fun column columnMem => ?_
  exact cell row (List.mem_range.mp rowMem) column (List.mem_range.mp columnMem)

theorem map_content_inserts :
    (grid.inserts number index).map CellInsert.content = grid.contents number := by
  have row (row : Nat) (columns : List Nat) :
      (columns.flatMap (cellInserts grid number index row)).map CellInsert.content =
        ((columns.map (row, ·)).filter fun cell =>
          !(grid.cellText cell.1 cell.2).isEmpty).map fun (row, column) =>
            (number, row, column, grid.cellText row column, grid.spans row column) := by
    induction columns with
    | nil => rfl
    | cons column rest step =>
        rw [List.flatMap_cons, List.map_append, step, List.map_cons, List.filter_cons, cellInserts]
        cases (grid.cellText row column).isEmpty <;> rfl
  rw [Grid.inserts, Grid.contents, Grid.positions, List.map_flatMap, List.filter_flatMap,
    List.map_flatMap]
  exact List.flatMap_congr fun number _ => row number _

theorem mem_inserts {insert : CellInsert} (mem : insert ∈ grid.inserts number index) :
    insert.table = number ∧ insert.row < grid.rowCount ∧ insert.column < grid.columnCount := by
  rcases List.mem_flatMap.mp mem with ⟨row, rowMem, mem⟩
  rcases List.mem_flatMap.mp mem with ⟨column, columnMem, mem⟩
  rw [cellInserts] at mem
  split at mem
  · exact absurd mem List.not_mem_nil
  · rw [List.mem_singleton.mp mem]
    exact ⟨rfl, List.mem_range.mp rowMem, List.mem_range.mp columnMem⟩

/-- The styles of a table's cells are placed where its texts are in the filled table. -/
theorem shifted_inserts (shift : Nat) :
    Shifted (fun insert => textIndex grid.columnCount grid.cellText (index + shift) insert.row
        insert.column) shift (grid.inserts number index) ∧
    insertsWidth (grid.inserts number index) =
      tableTextWidth grid.rowCount grid.columnCount grid.cellText := by
  have cellWidth (row column : Nat) : insertsWidth (cellInserts grid number index row column) =
      Text.width (grid.cellText row column) := by
    rw [cellInserts]
    split
    · rename_i blank
      rw [List.isEmpty_iff.mp blank]
      rfl
    · rfl
  have cells (row column : Nat) : Shifted (fun insert => textIndex grid.columnCount grid.cellText
      (index + shift) insert.row insert.column)
      (shift + tableTextWidth row grid.columnCount grid.cellText +
        total ((List.range column).map fun column => Text.width (grid.cellText row column)))
      (cellInserts grid number index row column) := by
    rw [cellInserts]
    split
    · exact .nil _
    · refine .cons ?_ (.nil _)
      rw [textIndex_eq, rowTextWidth]
      dsimp only
      omega
  have rows (row : Nat) := Shifted.flatMap_range
    (fun column => Text.width (grid.cellText row column))
    (fun column (_ : column < grid.columnCount) => cells row column)
    fun column _ => cellWidth row column
  exact Shifted.flatMap_range _ (fun row _ => (rows row).1) fun row _ => (rows row).2

end Table

/-! ## The tables of content, empty and filled -/

theorem tableTextWidth_blank (rows columns : Nat) :
    tableTextWidth rows columns (fun _ _ => []) = 0 := by
  have row : rowTextWidth columns (fun _ => []) = 0 := by
    rw [rowTextWidth, List.map_const', List.length_range]
    induction columns with
    | zero => rfl
    | succ columns step => rw [List.replicate_succ, total_cons, step]; rfl
  rw [tableTextWidth, List.map_const', List.length_range, row]
  induction rows with
  | zero => rfl
  | succ rows step => rw [List.replicate_succ, total_cons, step]

/-- The part that is the table of a grid, with the texts of its cells. -/
def Grid.part (grid : Grid) : BodyPart :=
  .table (textRows grid.rowCount grid.columnCount grid.cellText)

/-- The part that the table of a grid is before it is filled. -/
def Grid.blankPart (grid : Grid) : BodyPart :=
  .table (blankRows grid.rowCount grid.columnCount)

/-- What a table gains when it is filled is the texts of its cells. -/
theorem Grid.width_part (grid : Grid) :
    Buffer.width grid.part.units = Buffer.width grid.blankPart.units +
      tableTextWidth grid.rowCount grid.columnCount grid.cellText := by
  rw [← BodyPart.width_eq, ← BodyPart.width_eq, Grid.part, Grid.blankPart, blankRows_eq,
    BodyPart.width, BodyPart.width, rowsWidth_textRows, rowsWidth_textRows, tableTextWidth_blank]
  omega

/-- The tables of specifications, empty and filled: the marker of each filled table stands where that
of the empty one does, but for the texts of the tables before it, which begin with `shift`. -/
inductive Filled : Nat → List TableSpec → List Element → List Element → Prop where
  | nil (shift : Nat) : Filled shift [] [] []
  | cons {shift : Nat} (index : Nat) (spec : TableSpec) {specs : List TableSpec}
      {blanks tables : List Element}
      (following : Filled (shift + tableTextWidth spec.grid.rowCount spec.grid.columnCount
        spec.grid.cellText) specs blanks tables) :
      Filled shift (spec :: specs) (spec.grid.blankPart.element index :: blanks)
        (spec.grid.part.element (index + shift) :: tables)

/-- The tables that are seen in content before and after its cells are filled. -/
theorem Appends.filled {requests : List Request} {specs : List TableSpec}
    (appends : Appends requests specs) (index shift : Nat) (rest : Buffer)
    (noTable : ∀ index, tableMarks index rest = []) :
    Filled shift specs
      ((tableMarks index (requests.flatMap Request.units ++ rest)).map tableElement)
      ((tableMarks (index + shift) (contentUnits requests specs ++ rest)).map tableElement) := by
  induction appends generalizing index shift with
  | nil =>
      rw [List.flatMap_nil, List.nil_append, contentUnits, List.nil_append, noTable, noTable]
      exact .nil shift
  | text text following step =>
      have here := step (index + Text.width text) shift
      rw [List.flatMap_cons, List.append_assoc, Request.units, tableMarks_append index _ (by simp),
        contentUnits, List.append_assoc, tableMarks_append (index + shift) _ (by simp),
        Buffer.width_chars]
      rwa [Nat.add_right_comm] at here
  | table spansFit following step =>
      rename_i spec requests specs
      have behindFeed (index : Nat) (others : Buffer) :
          tableMarks index (.lineFeed :: others) = tableMarks (index + 1) others := rfl
      have here := step (index + 1 + Buffer.width spec.grid.blankPart.units)
        (shift + tableTextWidth spec.grid.rowCount spec.grid.columnCount spec.grid.cellText)
      have moved : index + shift + 1 + Buffer.width spec.grid.part.units =
          index + 1 + Buffer.width spec.grid.blankPart.units + (shift +
            tableTextWidth spec.grid.rowCount spec.grid.columnCount spec.grid.cellText) := by
        rw [Grid.width_part]
        omega
      have element {rows : List (List (List Buffer))}
          (areRows : ∀ row ∈ rows, ∀ cell ∈ row, IsCell cell) (index : Nat) :
          tableElement (index, rows.flatMap rowUnits) = (BodyPart.table rows).element index := by
        rw [tableElement, tableRows_flatMap areRows]
      have areBlank := isCell_blank spec.grid.rowCount spec.grid.columnCount
      have areTexts := isCell_textRows spec.grid.rowCount spec.grid.columnCount spec.grid.cellText
      rw [List.flatMap_cons, Request.units, emptyTable_eq, List.cons_append, List.cons_append,
        List.append_assoc, behindFeed, tableMarks_table _ areBlank, contentUnits, Grid.units_eq,
        List.cons_append, List.cons_append, List.append_assoc, behindFeed,
        tableMarks_table _ areTexts, List.map_cons, List.map_cons, element areBlank,
        element areTexts, Nat.add_right_comm index shift 1]
      rw [← moved, Nat.add_right_comm index shift 1] at here
      exact .cons (index + 1) spec here

/-- The cell of one of some tables, by the number of the table, the row and the column. -/
def cellOf? (tables : List Element) (table row column : Nat) : Option Cell :=
  (tables[table]?.bind Element.rows?).bind fun rows => cellAt? rows row column

/-- Where the text of an insert begins among filled tables. -/
def startIn (tables : List Element) (insert : CellInsert) : Option Nat :=
  (cellOf? tables insert.table insert.row insert.column).bind Cell.firstParagraph?

theorem pairedInserts_cons (number index : Nat) (spec : TableSpec) (specs : List TableSpec)
    (blanks : List Element) :
    pairedInserts number (spec :: specs) (spec.grid.blankPart.element index :: blanks) =
      spec.grid.inserts number index ++ pairedInserts (number + 1) specs blanks := by
  rw [pairedInserts, List.zip_cons_cons, List.zipIdx_cons, List.map_cons, List.flatMap_cons,
    ← pairedInserts, Grid.blankPart, BodyPart.element, inserts_locateTable]

namespace Filled

variable {shift : Nat} {specs : List TableSpec} {blanks tables : List Element}

/-- There is one insert for every cell that has a text. -/
theorem map_content (filled : Filled shift specs blanks tables) (number : Nat) :
    (pairedInserts number specs blanks).map CellInsert.content =
      (specs.zipIdx number).flatMap fun (spec, number) => spec.grid.contents number := by
  induction filled generalizing number with
  | nil shift => rfl
  | cons index spec following step =>
      rw [pairedInserts_cons, List.map_append, step, map_content_inserts, List.zipIdx_cons,
        List.flatMap_cons]

/-- Every cell holds its text. -/
theorem exists_cell (filled : Filled shift specs blanks tables) {number row column : Nat}
    {spec : TableSpec} (specFound : specs[number]? = some spec)
    (rowBelow : row < spec.grid.rowCount) (columnBelow : column < spec.grid.columnCount) :
    ∃ cell start, cellOf? tables number row column = some cell ∧
      cell.firstParagraph? = some start ∧
      cell.marks true = placeChars start (spec.grid.cellText row column ++ ['\n']) := by
  induction filled generalizing number with
  | nil shift => cases specFound
  | cons index first following step =>
      cases number with
      | zero =>
          cases specFound
          rcases exists_cell_textRows rowBelow columnBelow spec.grid.cellText (index + _) with
            ⟨cell, found, start, marks⟩
          exact ⟨cell, _, found, start, marks⟩
      | succ number => exact step specFound

/-- The styles of all inserts are placed where the texts begin in the filled tables. `before` are the
filled tables of specifications before these. -/
theorem exists_shifted (filled : Filled shift specs blanks tables) (before : List Element) :
    ∃ place, Shifted place shift (pairedInserts before.length specs blanks) ∧
      ∀ insert ∈ pairedInserts before.length specs blanks,
        startIn (before ++ tables) insert = some (place insert) := by
  refine ⟨fun insert => (startIn (before ++ tables) insert).getD 0, ?_⟩
  induction filled generalizing before with
  | nil shift => exact ⟨.nil shift, fun insert mem => absurd mem List.not_mem_nil⟩
  | cons index spec following step =>
      rename_i shift specs blanks tables
      rcases step (before ++ [spec.grid.part.element (index + shift)]) with ⟨shiftedRest, startRest⟩
      rcases shifted_inserts spec.grid before.length index shift with ⟨shiftedHere, width⟩
      have startHere (insert : CellInsert) (mem : insert ∈ spec.grid.inserts before.length index) :
          startIn (before ++ spec.grid.part.element (index + shift) :: tables) insert =
            some (textIndex spec.grid.columnCount spec.grid.cellText (index + shift) insert.row
              insert.column) := by
        rcases mem_inserts spec.grid before.length index mem with ⟨number, rowBelow, columnBelow⟩
        rcases exists_cell_textRows rowBelow columnBelow spec.grid.cellText (index + shift) with
          ⟨cell, found, start, _⟩
        have isTable : cellOf? (before ++ spec.grid.part.element (index + shift) :: tables)
            insert.table insert.row insert.column = some cell := by
          rw [number, cellOf?, List.getElem?_append_right (Nat.le_refl _), Nat.sub_self]
          exact found
        rw [startIn, isTable, Option.bind_some, start]
      rw [List.append_assoc, List.singleton_append, List.length_append, List.length_singleton]
        at shiftedRest startRest
      rw [pairedInserts_cons]
      constructor
      · refine (shiftedHere.congr fun insert mem => ?_).append (by rwa [width])
        rw [startHere insert mem]
        rfl
      · intro insert mem
        rcases List.mem_append.mp mem with mem | mem
        · dsimp only
          rw [startHere insert mem]
          rfl
        · exact startRest insert mem

theorem length_tables (filled : Filled shift specs blanks tables) :
    tables.length = specs.length := by
  induction filled with
  | nil shift => rfl
  | cons index spec following step => exact congrArg (· + 1) step

end Filled

/-- Inserts that fill slots come in ascending order. -/
theorem Placed.ascending {index : Nat} {slots : List Slot} {inserts : List CellInsert}
    (placed : Placed index slots inserts) :
    (∀ insert ∈ inserts, index ≤ insert.index) ∧
      inserts.Pairwise fun first second => first.index < second.index := by
  induction placed with
  | nil index => exact ⟨fun insert mem => absurd mem List.not_mem_nil, .nil⟩
  | skip blank following step =>
      exact ⟨fun insert mem => Nat.le_trans (Nat.le_add_right ..) (step.1 insert mem), step.2⟩
  | put atPlace sameText sameSpans behind inText following step =>
      rename_i index slot slots insert inserts
      have later : ∀ other ∈ inserts, insert.index < other.index := by
        intro other mem
        have bound := step.1 other mem
        have width := Buffer.width_pos behind
        rw [Slot.empty, Buffer.width_append] at bound
        omega
      refine ⟨fun other mem => ?_, .cons later step.2⟩
      rcases List.mem_cons.mp mem with rfl | mem
      · omega
      · have := later other mem
        omega

/-! ## Populating tables -/

/-- Inserts populate tables with what their specifications say: they name every cell that has a text
once, and none before a lower one; the tables hold the texts, and the requests of the inserts style
each text where it begins there. -/
structure Populates (specs : List TableSpec) (inserts : List CellInsert) (tables : List Element) :
    Prop where
  complete : inserts.reverse.map CellInsert.content =
    specs.zipIdx.flatMap fun (spec, number) => spec.grid.contents number
  descending : inserts.Pairwise fun first second => second.index < first.index
  count : tables.length = specs.length
  holds : ∀ (number row column : Nat) (spec : TableSpec), specs[number]? = some spec →
    row < spec.grid.rowCount → column < spec.grid.columnCount →
    ∃ cell, cellOf? tables number row column = some cell ∧
      (cell.marks true).map (·.1) = spec.grid.cellText row column ++ ['\n']
  styles : ∃ place : CellInsert → Nat,
    (∀ insert ∈ inserts, startIn tables insert = some (place insert)) ∧
    cellRequests inserts = inserts.map CellInsert.request ++
      inserts.reverse.flatMap fun insert => insert.styles (place insert)

/-- What is located in a snapshot of appended content populates the tables of the content. -/
theorem Appends.populates {requests : List Request} {specs : List TableSpec}
    (appends : Appends requests specs) {body : Buffer}
    (wellFormed : (body ++ [BodyUnit.lineFeed] : Buffer).WellFormed) (documentId title : String) :
    let existing := (Buffer.view (body ++ [BodyUnit.lineFeed]) documentId title).tables.length
    let blank : Buffer := body ++ (requests.flatMap Request.units ++ [BodyUnit.lineFeed])
    let filled : Buffer := body ++ (contentUnits requests specs ++ [BodyUnit.lineFeed])
    Populates specs (locateCells specs (blank.view documentId title) existing).inserts
      ((filled.view documentId title).tables.drop existing) := by
  intro existing blank filled
  rcases appends.wellFormed wellFormed with ⟨blankWellFormed, filledWellFormed⟩
  have fills := appends.filled (body.width + 1) 0 [BodyUnit.lineFeed] fun _ => rfl
  rw [Nat.add_zero, ← drop_tables_view wellFormed blankWellFormed documentId title,
    ← drop_tables_view wellFormed filledWellFormed documentId title] at fills
  have ascending := (appends.placed_pairedInserts wellFormed documentId title).ascending.2
  rcases fills.exists_shifted [] with ⟨place, shifted, starts⟩
  rw [inserts_locateCells]
  refine ⟨?_, List.pairwise_reverse.mpr ascending, fills.length_tables, ?_, place, ?_, ?_⟩
  · rw [List.reverse_reverse]
    exact fills.map_content 0
  · intro number row column spec specFound rowBelow columnBelow
    rcases fills.exists_cell specFound rowBelow columnBelow with ⟨cell, start, found, _, marks⟩
    refine ⟨cell, found, ?_⟩
    rw [marks, ← unitMarks_chars, map_fst_unitMarks, Buffer.text_chars]
  · intro insert mem
    exact starts insert (List.mem_reverse.mp mem)
  · rw [cellRequests, List.reverse_reverse]
    exact congrArg _ shifted.cellStyles_eq

/-- Whatever stands in a document, the tables of Markdown that is put behind it are populated with the
texts of their cells: the requests fill them in one batch that leaves all other units as they are, and
each style covers the text of its span. -/
theorem populates_compile {service : Service} (reachable : Service.contract.Reachable service)
    {documentId : String} {buffer : Buffer} (stands : service.body? documentId = some buffer)
    (title : String) (diagramLanguages : List Text) (markdown : Text) :
    let compiled := compile (Markdown.classify diagramLanguages markdown)
    let existing := (buffer.view documentId title).tables.length
    ∃ body : Buffer, buffer = body ++ [BodyUnit.lineFeed] ∧
      let blank : Buffer := body ++ (compiled.requests.flatMap Request.units ++ [BodyUnit.lineFeed])
      let filled : Buffer := body ++ (compiled.units ++ [BodyUnit.lineFeed])
      let inserts :=
        (locateCells compiled.tables (blank.view documentId title) existing).inserts
      applyBatch buffer compiled.requests = .ok (blank, ⟨[], []⟩) ∧
      applyBatch blank (cellRequests inserts) =
        .ok (filled, ⟨inserts.reverse.flatMap CellInsert.spanTexts, []⟩) ∧
      Populates compiled.tables inserts
        ((filled.view documentId title).tables.drop existing) := by
  intro compiled existing
  have wellFormed := reachable.sound documentId buffer stands
  have appends : Appends compiled.requests compiled.tables :=
    (outline_compile diagramLanguages markdown).appends
  rcases wellFormed.ends with ⟨body, rfl⟩
  exact ⟨body, rfl, appends.applyBatch body .lineFeed,
    appends.applyBatch_locateCells wellFormed documentId title,
    appends.populates wellFormed documentId title⟩

/-- Markdown with two tables: rows that are short, a cell without a text, a bold one. -/
def unevenTables : Text :=
  "| a | b |\n|---|---|\n| **c** |\n\n| d |\n|---|\n|  |\n".toList

theorem populates_compile_unevenTables :
    let compiled := compile (Markdown.classify [] unevenTables)
    let existing := (Buffer.view (.ofText "Old".toList) "handbook" "Handbook").tables.length
    ∃ body : Buffer, .ofText "Old".toList = body ++ [BodyUnit.lineFeed] ∧
      let blank : Buffer := body ++ (compiled.requests.flatMap Request.units ++ [BodyUnit.lineFeed])
      let filled : Buffer := body ++ (compiled.units ++ [BodyUnit.lineFeed])
      let inserts :=
        (locateCells compiled.tables (blank.view "handbook" "Handbook") existing).inserts
      applyBatch (.ofText "Old".toList) compiled.requests = .ok (blank, ⟨[], []⟩) ∧
      applyBatch blank (cellRequests inserts) =
        .ok (filled, ⟨inserts.reverse.flatMap CellInsert.spanTexts, []⟩) ∧
      Populates compiled.tables inserts
        ((filled.view "handbook" "Handbook").tables.drop existing) :=
  populates_compile (Service.reachable_ofTexts [("handbook", "Handbook", "Old".toList)] .none) rfl
    "Handbook" [] unevenTables

end DocBinder
