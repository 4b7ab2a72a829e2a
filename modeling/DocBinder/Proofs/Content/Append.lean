import DocBinder.Proofs.Content.Tables

/-!
# Appending content

The content batch of a document goes to the end of the body, request after request, and the batch
that fills its tables finds just the tables that the content batch has inserted. Together they put
the units of the document's content between what was there and the final line feed, whatever the
buffer held before.
-/

namespace DocBinder

open Docs

/-! ## The units of content -/

/-- The units that content requests come to once their tables are filled: the characters of every
text, and for every table a line feed and the table with the texts of its cells. -/
def contentUnits : List Request → List TableSpec → Buffer
  | [], _ => []
  | .insertText text _ :: rest, specs => text.map .char ++ contentUnits rest specs
  | .insertTable .. :: rest, spec :: specs =>
      .lineFeed :: spec.grid.units ++ contentUnits rest specs
  | _ :: rest, specs => contentUnits rest specs

/-- The units that compiled content comes to. -/
def Compiled.units (compiled : Compiled) : Buffer :=
  contentUnits compiled.requests compiled.tables

/-- The units that a content request inserts by itself. -/
def Docs.Request.units : Request → Buffer
  | .insertText text _ => text.map .char
  | .insertTable rows columns _ => Buffer.emptyTable rows columns
  | _ => []

/-- Requests that append texts and empty tables, where each table has the size of its grid. -/
inductive Appends : List Request → List TableSpec → Prop where
  | nil : Appends [] []
  | text (text : Text) {requests : List Request} {specs : List TableSpec}
      (following : Appends requests specs) :
      Appends (.insertText text .bodyEnd :: requests) specs
  | table {spec : TableSpec} {requests : List Request} {specs : List TableSpec}
      (spansFit : spec.grid.SpansFit) (following : Appends requests specs) :
      Appends (.insertTable spec.grid.rowCount spec.grid.columnCount .bodyEnd :: requests)
        (spec :: specs)

/-- The slots of content. -/
def contentSlots : List Request → List TableSpec → List Slot
  | [], _ => []
  | .insertText text _ :: rest, specs => .fixed (text.map .char) :: contentSlots rest specs
  | .insertTable .. :: rest, spec :: specs => tableSlots spec.grid ++ contentSlots rest specs
  | _ :: rest, specs => contentSlots rest specs

theorem flatMap_filled_contentSlots {requests : List Request} {specs : List TableSpec}
    (appends : Appends requests specs) :
    (contentSlots requests specs).flatMap Slot.filled = contentUnits requests specs := by
  induction appends with
  | nil => rfl
  | text text following step =>
      rw [contentSlots, contentUnits, List.flatMap_cons, step]
      simp [Slot.filled, Slot.fixed]
  | table spansFit following step =>
      rw [contentSlots, contentUnits, List.flatMap_append, step, flatMap_filled_tableSlots]

theorem flatMap_empty_contentSlots {requests : List Request} {specs : List TableSpec}
    (appends : Appends requests specs) :
    (contentSlots requests specs).flatMap Slot.empty = requests.flatMap Request.units := by
  induction appends with
  | nil => rfl
  | text text following step =>
      rw [contentSlots, List.flatMap_cons, List.flatMap_cons, step]
      simp [Slot.empty, Slot.fixed, Request.units]
  | table spansFit following step =>
      rw [contentSlots, List.flatMap_append, step, flatMap_empty_tableSlots, List.flatMap_cons]
      rfl

/-- The content batch puts its units before the final line feed. -/
theorem Appends.applyBatch {requests : List Request} {specs : List TableSpec}
    (appends : Appends requests specs) (body : Buffer) (last : BodyUnit) :
    applyBatch (body ++ [last]) requests =
      .ok (body ++ (requests.flatMap Request.units ++ [last]), ⟨[], []⟩) := by
  induction appends generalizing body with
  | nil => rfl
  | text text following step =>
      have here := Request.apply_insertText_bodyEnd body last text
      have further := step (body ++ text.map .char)
      rw [List.append_assoc] at further
      rw [applyBatch_cons here further]
      simp [Request.units]
  | table spansFit following step =>
      rename_i spec _ _
      have here := Request.apply_insertTable_bodyEnd body last spec.grid.rowCount
        spec.grid.columnCount
      have further := step (body ++ Buffer.emptyTable spec.grid.rowCount spec.grid.columnCount)
      rw [List.append_assoc] at further
      rw [applyBatch_cons here further]
      simp [Request.units]

/-! ## Reading content -/

namespace Docs

/-- A table whose cells hold units and a line feed. -/
def tableOf (rows : List (List Buffer)) : Buffer :=
  .tableStart :: (rows.flatMap fun row =>
    .rowStart :: row.flatMap fun cell => .cellStart :: (cell ++ [BodyUnit.lineFeed])) ++ [.tableEnd]

namespace Mode

/-- Reading the cells of a row ends where another cell, another row or the end of the table may
follow. -/
theorem after?_cells {mode : Mode} {cells : List Buffer} (between : mode = .row ∨ mode = .cell false)
    (inline : ∀ cell ∈ cells, ∀ unit ∈ cell, unit.isInline = true) :
    ∃ reached, mode.after? (cells.flatMap fun cell => .cellStart :: (cell ++ [BodyUnit.lineFeed])) =
      some reached ∧ (reached = .row ∨ reached = .cell false) := by
  induction cells generalizing mode with
  | nil => exact ⟨mode, rfl, between⟩
  | cons cell rest step =>
      have inside : Mode.emptyCell.region? = some .cell := rfl
      rcases after?_inline inside (inline cell List.mem_cons_self) with
        ⟨opened, readsCell, inCell⟩
      have closed : opened.after? [BodyUnit.lineFeed] = some (.cell false) := by
        rw [after?, next?_inline inCell rfl]
        rfl
      rcases step (.inr rfl) fun other mem => inline other (List.mem_cons_of_mem _ mem) with
        ⟨reached, readsRest, reachedBetween⟩
      refine ⟨reached, ?_, reachedBetween⟩
      have begun : mode.next? .cellStart = some .emptyCell := by
        rcases between with rfl | rfl <;> rfl
      rw [List.flatMap_cons, List.cons_append, after?, begun, Option.bind_some,
        List.append_assoc, after?_append_some readsCell, after?_append_some closed, readsRest]

theorem after?_rows {mode : Mode} {rows : List (List Buffer)}
    (between : mode = .table ∨ mode = .row ∨ mode = .cell false)
    (inline : ∀ row ∈ rows, ∀ cell ∈ row, ∀ unit ∈ cell, unit.isInline = true) :
    ∃ reached, mode.after? (rows.flatMap fun row =>
        .rowStart :: row.flatMap fun cell => .cellStart :: (cell ++ [BodyUnit.lineFeed])) =
      some reached ∧ (reached = .table ∨ reached = .row ∨ reached = .cell false) := by
  induction rows generalizing mode with
  | nil => exact ⟨mode, rfl, between⟩
  | cons row rest step =>
      rcases after?_cells (.inl (rfl : Mode.row = .row)) (inline row List.mem_cons_self) with
        ⟨middle, readsRow, middleBetween⟩
      rcases step (.inr middleBetween) fun other mem => inline other (List.mem_cons_of_mem _ mem)
        with ⟨reached, readsRest, reachedBetween⟩
      refine ⟨reached, ?_, reachedBetween⟩
      have begun : mode.next? .rowStart = some .row := by
        rcases between with rfl | rfl | rfl <;> rfl
      rw [List.flatMap_cons, List.cons_append, after?, begun, Option.bind_some,
        after?_append_some readsRow, readsRest]

/-- A table can be read between paragraphs. -/
theorem after?_tableOf (rows : List (List Buffer))
    (inline : ∀ row ∈ rows, ∀ cell ∈ row, ∀ unit ∈ cell, unit.isInline = true) :
    (Mode.body false).after? (tableOf rows) = some (.body false) := by
  rcases after?_rows (.inl rfl) inline with ⟨reached, reads, between⟩
  have ended : reached.after? [.tableEnd] = some (.body false) := by
    rcases between with rfl | rfl | rfl <;> rfl
  rw [tableOf, List.cons_append, after?, show (Mode.body false).next? .tableStart = some .table
    from rfl, Option.bind_some, after?_append_some reads, ended]

end Mode

end Docs

theorem emptyTable_eq_tableOf (rows columns : Nat) :
    Buffer.emptyTable rows columns =
      .lineFeed :: tableOf (List.replicate rows (List.replicate columns [])) := by
  rw [Buffer.emptyTable, tableOf, List.flatMap_def, List.map_replicate, List.flatMap_def,
    List.map_replicate]
  rfl

theorem units_eq_tableOf (grid : Grid) :
    grid.units = tableOf ((List.range grid.rowCount).map fun row =>
      (List.range grid.columnCount).map fun column => (grid.cellText row column).map .char) := by
  simp only [Grid.units, tableOf, List.flatMap_map]

/-- A mode that reads a final line feed to the end of a body is outside tables. -/
theorem Docs.Mode.region?_of_closes {mode : Mode}
    (closes : mode.after? [BodyUnit.lineFeed] = some (.body false)) : mode.region? = some .body := by
  rcases mode with isOpen | _ | _ | _ | isOpen
  · rfl
  · exact absurd closes (by decide)
  · exact absurd closes (by decide)
  · exact absurd closes (by decide)
  · exact absurd closes (by cases isOpen <;> decide)

/-- Outside tables, both the empty and the filled units of content can be read. -/
theorem Appends.reads {requests : List Request} {specs : List TableSpec}
    (appends : Appends requests specs) {mode : Mode} (outside : mode.region? = some .body) :
    (∃ reached, mode.after? (requests.flatMap Request.units) = some reached ∧
      reached.region? = some .body) ∧
    ∃ reached, mode.after? (contentUnits requests specs) = some reached ∧
      reached.region? = some .body := by
  induction appends generalizing mode with
  | nil => exact ⟨⟨mode, rfl, outside⟩, mode, rfl, outside⟩
  | text text following step =>
      rcases Mode.after?_inline outside (Buffer.inline_chars text) with ⟨middle, readsText, middleOutside⟩
      rcases step middleOutside with ⟨⟨blank, readsBlank, blankOutside⟩, ⟨full, readsFull, fullOutside⟩⟩
      refine ⟨⟨blank, ?_, blankOutside⟩, full, ?_, fullOutside⟩
      · rw [List.flatMap_cons, Request.units, Mode.after?_append_some readsText, readsBlank]
      · rw [contentUnits, Mode.after?_append_some readsText, readsFull]
  | table spansFit following step =>
      rename_i spec _ _
      have closes : mode.next? .lineFeed = some (.body false) := by
        rw [Mode.next?_inline outside rfl]
        rfl
      have closed : (Mode.body false).region? = some .body := rfl
      rcases step closed with
        ⟨⟨blank, readsBlank, blankOutside⟩, ⟨full, readsFull, fullOutside⟩⟩
      refine ⟨⟨blank, ?_, blankOutside⟩, full, ?_, fullOutside⟩
      · have table := Mode.after?_tableOf
          (List.replicate spec.grid.rowCount (List.replicate spec.grid.columnCount []))
          (by
            intro row rowMem cell cellMem unit unitMem
            rw [List.eq_of_mem_replicate rowMem] at cellMem
            rw [List.eq_of_mem_replicate cellMem] at unitMem
            cases unitMem)
        rw [List.flatMap_cons, Request.units, emptyTable_eq_tableOf, List.cons_append, Mode.after?,
          closes, Option.bind_some, Mode.after?_append_some table, readsBlank]
      · have table := Mode.after?_tableOf
          ((List.range spec.grid.rowCount).map fun row =>
            (List.range spec.grid.columnCount).map fun column =>
              (spec.grid.cellText row column).map .char)
          (by
            intro row rowMem cell cellMem unit unitMem
            rcases List.mem_map.mp rowMem with ⟨number, _, rfl⟩
            rcases List.mem_map.mp cellMem with ⟨column, _, rfl⟩
            exact Buffer.inline_chars _ unit unitMem)
        rw [contentUnits, units_eq_tableOf, List.cons_append, Mode.after?, closes,
          Option.bind_some, Mode.after?_append_some table, readsFull]

/-- Behind a well-formed buffer, content keeps the buffer well-formed, empty or filled. -/
theorem Appends.wellFormed {requests : List Request} {specs : List TableSpec}
    (appends : Appends requests specs) {body : Buffer}
    (wellFormed : (body ++ [BodyUnit.lineFeed] : Buffer).WellFormed) :
    (body ++ (requests.flatMap Request.units ++ [BodyUnit.lineFeed]) : Buffer).WellFormed ∧
      (body ++ (contentUnits requests specs ++ [BodyUnit.lineFeed]) : Buffer).WellFormed := by
  rcases Mode.exists_between wellFormed.reads with ⟨mode, readsBody, closes⟩
  have outside := Mode.region?_of_closes closes
  have closing : ∀ {reached : Mode}, reached.region? = some .body →
      reached.after? [BodyUnit.lineFeed] = some (.body false) := by
    intro reached reachedOutside
    rw [Mode.after?, Mode.next?_inline reachedOutside rfl]
    rfl
  rcases appends.reads outside with ⟨⟨blank, readsBlank, blankOutside⟩, ⟨full, readsFull, fullOutside⟩⟩
  refine ⟨⟨?_, ?_⟩, ?_, ?_⟩
  · rw [Mode.after?_append_some readsBody, Mode.after?_append_some readsBlank,
      closing blankOutside]
  · exact ⟨body ++ requests.flatMap Request.units, by simp⟩
  · rw [Mode.after?_append_some readsBody, Mode.after?_append_some readsFull,
      closing fullOutside]
  · exact ⟨body ++ contentUnits requests specs, by simp⟩

/-! ## The tables behind earlier content -/

/-- A table that is open is closed before its region is left. -/
theorem Docs.Mode.mem_tableEnd {mode : Mode} {units : Buffer} {isOpen : Bool}
    (inside : mode.region? ≠ some .body) (reads : mode.after? units = some (.body isOpen)) :
    BodyUnit.tableEnd ∈ units := by
  induction units generalizing mode with
  | nil =>
      cases reads
      exact absurd rfl inside
  | cons unit rest step =>
      rw [Mode.after?, Option.bind_eq_some_iff] at reads
      rcases reads with ⟨next, here, further⟩
      by_cases ends : unit = .tableEnd
      · exact ends ▸ List.mem_cons_self
      · refine List.mem_cons_of_mem _ (step ?_ further)
        rcases mode with wasOpen | _ | _ | _ | wasOpen
        · exact absurd rfl inside
        all_goals
          cases unit <;> (try cases wasOpen) <;>
            simp_all [Mode.next?, Mode.region?] <;> subst next <;> simp

/-- The tables of a buffer whose tables are all closed, and of what follows. -/
theorem tableMarks_append_closed {mode : Mode} {first : Buffer} {isOpen : Bool} (index : Nat)
    (second : Buffer) (reads : mode.after? first = some (.body isOpen)) :
    tableMarks index (first ++ second) =
      tableMarks index first ++ tableMarks (index + first.width) second := by
  induction first generalizing mode index with
  | nil => rfl
  | cons unit rest step =>
      rw [Mode.after?, Option.bind_eq_some_iff] at reads
      rcases reads with ⟨next, here, further⟩
      have behind := fun index => step index further
      cases unit with
      | tableStart =>
          have inside : next.region? ≠ some .body := by
            rcases mode with wasOpen | _ | _ | _ | wasOpen <;> (try cases wasOpen) <;>
              simp [Mode.next?] at here
            subst next
            simp [Mode.region?]
          have closed := Mode.mem_tableEnd inside further
          have same : (rest ++ second).takeWhile (· != .tableEnd) =
              rest.takeWhile (· != .tableEnd) := by
            rcases List.append_of_mem closed with ⟨early, late, rfl⟩
            simp only [List.append_assoc, List.cons_append, List.takeWhile_append,
              List.takeWhile_cons, bne_self_eq_false, Bool.false_eq_true, if_false]
          simp only [List.cons_append, tableMarks, same, behind, Buffer.width_cons, Nat.add_assoc,
            BodyUnit.width]
      | _ => simp [tableMarks, behind, Nat.add_assoc]

/-- A table is the next one, and no other begins before its end. -/
theorem tableMarks_table (index : Nat) {rows : List (List (List Buffer))}
    (areRows : ∀ row ∈ rows, ∀ cell ∈ row, IsCell cell) (rest : Buffer) :
    tableMarks index ((BodyPart.table rows).units ++ rest) =
      (index, rows.flatMap rowUnits) ::
        tableMarks (index + Buffer.width (BodyPart.table rows).units) rest := by
  have absent := not_mem_tableEnd areRows
  have noStart : BodyUnit.tableStart ∉ rows.flatMap rowUnits ++ [BodyUnit.tableEnd] := by
    simp [not_mem_tableStart areRows]
  have inner : (rows.flatMap rowUnits ++ .tableEnd :: rest).takeWhile (· != .tableEnd) =
      rows.flatMap rowUnits := by
    rw [List.takeWhile_append_of_pos]
    · simp
    · intro unit mem
      exact bne_iff_ne.mpr fun same => absent (same ▸ mem)
  have behind := tableMarks_append (index + 1) rest noStart
  rw [List.append_assoc, List.singleton_append] at behind
  have shape : (BodyPart.table rows).units ++ rest =
      .tableStart :: (rows.flatMap rowUnits ++ .tableEnd :: rest) := by
    rw [BodyPart.units]
    simp
  have width : Buffer.width (BodyPart.table rows).units =
      1 + Buffer.width (rows.flatMap rowUnits ++ [.tableEnd]) := rfl
  have begun (others : Buffer) : tableMarks index (.tableStart :: others) =
      (index, others.takeWhile (· != .tableEnd)) :: tableMarks (index + 1) others := rfl
  rw [shape, begun, inner, behind, width, Nat.add_assoc]

/-- An inserted table is the next one behind its line feed. -/
theorem tableMarks_emptyTable (index rows columns : Nat) (rest : Buffer) :
    tableMarks index (Buffer.emptyTable rows columns ++ rest) =
      (index + 1, (blankRows rows columns).flatMap rowUnits) ::
        tableMarks (index + Buffer.width (Buffer.emptyTable rows columns)) rest := by
  have behindFeed (others : Buffer) :
      tableMarks index (.lineFeed :: others) = tableMarks (index + 1) others := rfl
  rw [emptyTable_eq, List.cons_append, behindFeed, tableMarks_table _ (isCell_blank rows columns),
    Buffer.width_cons, Buffer.width_lineFeed, Nat.add_assoc]

/-- The inserts that are located for specifications and their empty tables, which are counted from
`number`. -/
def pairedInserts (number : Nat) (specs : List TableSpec) (blanks : List Element) :
    List CellInsert :=
  (((specs.zip blanks).zipIdx number).map fun ((spec, element), number) =>
    locateTable number spec.grid element).flatMap (·.inserts)

theorem inserts_locateCells (specs : List TableSpec) (snapshot : Snapshot) (existing : Nat) :
    (locateCells specs snapshot existing).inserts =
      (pairedInserts 0 specs (snapshot.tables.drop existing)).reverse := by
  cases specs with
  | nil => rfl
  | cons spec others => rfl

/-- The inserts that are located for new tables fill the slots of the content. `number` counts the
tables before. -/
theorem Appends.placed {requests : List Request} {specs : List TableSpec}
    (appends : Appends requests specs) (index number : Nat) (rest : Buffer)
    (noTable : tableMarks (index + Buffer.width (requests.flatMap Request.units)) rest = []) :
    (tableMarks index (requests.flatMap Request.units ++ rest)).length = specs.length ∧
    Placed index (contentSlots requests specs)
      (pairedInserts number specs
        ((tableMarks index (requests.flatMap Request.units ++ rest)).map tableElement)) := by
  induction appends generalizing index number with
  | nil =>
      rw [List.flatMap_nil, Buffer.width_nil, Nat.add_zero] at noTable
      rw [List.flatMap_nil, List.nil_append, noTable]
      exact ⟨rfl, .nil index⟩
  | text text following step =>
      rw [List.flatMap_cons, List.append_assoc, Request.units, tableMarks_append index _ (by simp)]
      rw [List.flatMap_cons, Buffer.width_append, ← Nat.add_assoc] at noTable
      rcases step _ number noTable with ⟨length, placed⟩
      refine ⟨length, .skip rfl ?_⟩
      simpa [Slot.empty, Slot.fixed, Request.units] using placed
  | table spansFit following step =>
      rename_i spec requests specs
      rw [List.flatMap_cons, List.append_assoc, Request.units, tableMarks_emptyTable]
      rw [List.flatMap_cons, Buffer.width_append, ← Nat.add_assoc] at noTable
      rcases step _ (number + 1) noTable with ⟨length, placed⟩
      refine ⟨by rw [List.length_cons, List.length_cons]; exact congrArg (· + 1) length, ?_⟩
      rw [List.map_cons, pairedInserts, List.zip_cons_cons, List.zipIdx_cons, List.map_cons,
        List.flatMap_cons, ← pairedInserts]
      refine (placed_locateTable spansFit number index (congrArg (rowList (index + 2))
        (tableRows_flatMap (isCell_blank _ _)))).append ?_
      rwa [flatMap_empty_tableSlots]

/-- The tables of a snapshot behind those that stood in the body before are those of what was put
before its final line feed. -/
theorem drop_tables_view {body units : Buffer}
    (wellFormed : (body ++ [BodyUnit.lineFeed] : Buffer).WellFormed)
    (whole : (body ++ (units ++ [BodyUnit.lineFeed]) : Buffer).WellFormed) (documentId title : String) :
    ((body ++ (units ++ [BodyUnit.lineFeed]) : Buffer).view documentId title).tables.drop
        (Buffer.view (body ++ [BodyUnit.lineFeed]) documentId title).tables.length =
      (tableMarks (body.width + 1) (units ++ [BodyUnit.lineFeed])).map tableElement := by
  rcases Mode.exists_between wellFormed.reads with ⟨mode, readsBody, closes⟩
  rcases Mode.eq_body_of_region? (Mode.region?_of_closes closes) with ⟨isOpen, rfl⟩
  have earlier := tableMarks_append_closed 1 [BodyUnit.lineFeed] readsBody
  have later := tableMarks_append_closed 1 (units ++ [BodyUnit.lineFeed]) readsBody
  have noTable : tableMarks (1 + body.width) [BodyUnit.lineFeed] = [] := rfl
  rw [noTable, List.append_nil] at earlier
  rw [Buffer.tables_view whole, Buffer.tables_view wellFormed, earlier, later, List.length_map,
    List.map_append, Nat.add_comm 1]
  exact List.drop_left' (List.length_map ..)

section Populate

variable {requests : List Request} {specs : List TableSpec} {body : Buffer}
  (appends : Appends requests specs) (wellFormed : (body ++ [BodyUnit.lineFeed] : Buffer).WellFormed)
  (documentId title : String)

include appends wellFormed

/-- The inserts for the tables of the appended content fill its slots. -/
theorem Appends.placed_pairedInserts :
    Placed (body.width + 1) (contentSlots requests specs)
      (pairedInserts 0 specs
        (((body ++ (requests.flatMap Request.units ++ [BodyUnit.lineFeed]) : Buffer).view documentId
          title).tables.drop (Buffer.view (body ++ [BodyUnit.lineFeed]) documentId title).tables.length)) := by
  rw [drop_tables_view wellFormed (appends.wellFormed wellFormed).1]
  exact (appends.placed (body.width + 1) 0 [BodyUnit.lineFeed] rfl).2

/-- The batch that is computed from a snapshot of the appended content fills its tables, and its
styles cover the spans of their texts. -/
theorem Appends.applyBatch_locateCells :
    let inserts := (locateCells specs
      ((body ++ (requests.flatMap Request.units ++ [BodyUnit.lineFeed]) : Buffer).view documentId title)
      (Buffer.view (body ++ [BodyUnit.lineFeed]) documentId title).tables.length).inserts
    Docs.applyBatch (body ++ (requests.flatMap Request.units ++ [BodyUnit.lineFeed]))
        (cellRequests inserts) =
      .ok (body ++ (contentUnits requests specs ++ [BodyUnit.lineFeed]),
        ⟨inserts.reverse.flatMap CellInsert.spanTexts, []⟩) := by
  intro inserts
  have placed := appends.placed_pairedInserts wellFormed documentId title
  have filled := placed.applyBatch_cellRequests body [BodyUnit.lineFeed] rfl
  rwa [flatMap_empty_contentSlots appends, flatMap_filled_contentSlots appends,
    ← List.reverse_reverse (pairedInserts ..), ← inserts_locateCells, List.reverse_reverse] at filled

end Populate

end DocBinder
