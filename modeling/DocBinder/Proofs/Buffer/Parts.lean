import DocBinder.Proofs.Buffer.Shape

/-!
# The parts of a well-formed buffer

A well-formed buffer is a sequence of paragraphs and tables, and there is only one way to see it as
one. The wire form of a document is made from the parts that `bodyParts` finds; this file shows that
these are the parts the buffer was made of, down to the paragraphs of each cell.
-/

namespace DocBinder.Docs

/-- A paragraph: inline units, of which the last and only the last is a line feed. -/
def IsParagraph (units : Buffer) : Prop :=
  ∃ inside, units = inside ++ [.lineFeed] ∧
    ∀ unit ∈ inside, unit.isInline = true ∧ unit ≠ .lineFeed

/-- The units of a cell, its marker included. -/
def cellUnits (cell : List Buffer) : Buffer :=
  .cellStart :: cell.flatten

/-- The units of a row, its marker included. -/
def rowUnits (row : List (List Buffer)) : Buffer :=
  .rowStart :: row.flatMap cellUnits

/-- The paragraphs of a cell, of which there is at least one. -/
def IsCell (cell : List Buffer) : Prop :=
  cell ≠ [] ∧ ∀ paragraph ∈ cell, IsParagraph paragraph

namespace BodyPart

/-- The units of a part. -/
def units : BodyPart → Buffer
  | .paragraph units => units
  | .table rows => .tableStart :: (rows.flatMap rowUnits ++ [.tableEnd])

/-- A part is made of paragraphs, and each cell of a table of at least one. -/
def WellFormed : BodyPart → Prop
  | .paragraph units => IsParagraph units
  | .table rows => ∀ row ∈ rows, ∀ cell ∈ row, IsCell cell

end BodyPart

/-! ## Every well-formed buffer has parts -/

/-- What is left to read between the parts of a body: further parts. -/
def PartsLeft (rest : Buffer) : Prop :=
  ∃ parts : List BodyPart, (∀ part ∈ parts, part.WellFormed) ∧ rest = parts.flatMap BodyPart.units

/-- What is left to read between the rows of a table: further rows, and what comes behind. -/
def RowsLeft (rest : Buffer) : Prop :=
  ∃ (rows : List (List (List Buffer))) (following : Buffer),
    (∀ row ∈ rows, ∀ cell ∈ row, IsCell cell) ∧ PartsLeft following ∧
      rest = rows.flatMap rowUnits ++ .tableEnd :: following

/-- What is left to read between the cells of a row: further cells, and what comes behind. -/
def CellsLeft (rest : Buffer) : Prop :=
  ∃ (cells : List (List Buffer)) (following : Buffer),
    (∀ cell ∈ cells, IsCell cell) ∧ RowsLeft following ∧
      rest = cells.flatMap cellUnits ++ following

/-- What is left to read between the paragraphs of a cell: further paragraphs, and what comes
behind. -/
def ParagraphsLeft (rest : Buffer) : Prop :=
  ∃ (paragraphs : List Buffer) (following : Buffer),
    (∀ paragraph ∈ paragraphs, IsParagraph paragraph) ∧ CellsLeft following ∧
      rest = paragraphs.flatten ++ following

/-- What is left to read where a paragraph must end: the paragraph, and what comes behind. -/
def ParagraphThen (left : Buffer → Prop) (rest : Buffer) : Prop :=
  ∃ paragraph following, IsParagraph paragraph ∧ left following ∧ rest = paragraph ++ following

/-- What is left to read in a mode. -/
def Mode.Leaves : Mode → Buffer → Prop
  | .body false => PartsLeft
  | .body true => ParagraphThen PartsLeft
  | .table => RowsLeft
  | .row => CellsLeft
  | .emptyCell => ParagraphThen ParagraphsLeft
  | .cell false => ParagraphsLeft
  | .cell true => ParagraphThen ParagraphsLeft

theorem isParagraph_lineFeed : IsParagraph [.lineFeed] :=
  ⟨[], rfl, by simp⟩

theorem isParagraph_cons {unit : BodyUnit} {units : Buffer} (isInline : unit.isInline = true)
    (notBreak : unit ≠ .lineFeed) (paragraph : IsParagraph units) :
    IsParagraph (unit :: units) := by
  rcases paragraph with ⟨inside, rfl, inlineInside⟩
  refine ⟨unit :: inside, rfl, ?_⟩
  intro other mem
  rcases List.mem_cons.mp mem with rfl | mem
  · exact ⟨isInline, notBreak⟩
  · exact inlineInside other mem

namespace Mode

theorem leaves_paragraph {paragraph following : Buffer} (isParagraph : IsParagraph paragraph)
    (leaves : PartsLeft following) :
    PartsLeft (paragraph ++ following) := by
  rcases leaves with ⟨parts, wellFormed, rfl⟩
  refine ⟨.paragraph paragraph :: parts, ?_, rfl⟩
  intro part mem
  rcases List.mem_cons.mp mem with rfl | mem
  · exact isParagraph
  · exact wellFormed part mem

theorem leaves_cellParagraph {paragraph following : Buffer} (isParagraph : IsParagraph paragraph)
    (leaves : ParagraphsLeft following) :
    ParagraphsLeft (paragraph ++ following) := by
  rcases leaves with ⟨paragraphs, behind, areParagraphs, leavesBehind, rfl⟩
  refine ⟨paragraph :: paragraphs, behind, ?_, leavesBehind, by simp⟩
  intro other mem
  rcases List.mem_cons.mp mem with rfl | mem
  · exact isParagraph
  · exact areParagraphs other mem

/-- A character or an image is read before what is left in the region it belongs to. -/
theorem leaves_inline {mode : Mode} {region : Region} {unit : BodyUnit} {rest : Buffer}
    (there : mode.region? = some region) (isInline : unit.isInline = true)
    (leaves : (inRegion (unit != .lineFeed) region).Leaves rest) :
    mode.Leaves (unit :: rest) := by
  by_cases isBreak : unit = .lineFeed
  · subst unit
    cases region <;> cases mode <;> simp only [region?, reduceCtorEq, Option.some.injEq] at there
    case body.body isOpen =>
      have closed := leaves_paragraph isParagraph_lineFeed leaves
      cases isOpen
      · exact closed
      · exact ⟨[.lineFeed], rest, isParagraph_lineFeed, leaves, rfl⟩
    case cell.emptyCell =>
      exact ⟨[.lineFeed], rest, isParagraph_lineFeed, leaves, rfl⟩
    case cell.cell isOpen =>
      have closed := leaves_cellParagraph isParagraph_lineFeed leaves
      cases isOpen
      · exact closed
      · exact ⟨[.lineFeed], rest, isParagraph_lineFeed, leaves, rfl⟩
  · rw [bne_iff_ne.mpr isBreak] at leaves
    cases region <;> cases mode <;> simp only [region?, reduceCtorEq, Option.some.injEq] at there
    case body.body isOpen =>
      rcases leaves with ⟨paragraph, following, isParagraph, leaves, rfl⟩
      have longer := isParagraph_cons isInline isBreak isParagraph
      cases isOpen
      · exact leaves_paragraph longer leaves
      · exact ⟨unit :: paragraph, following, longer, leaves, rfl⟩
    case cell.emptyCell =>
      rcases leaves with ⟨paragraph, following, isParagraph, leaves, rfl⟩
      exact ⟨unit :: paragraph, following, isParagraph_cons isInline isBreak isParagraph, leaves,
        rfl⟩
    case cell.cell isOpen =>
      rcases leaves with ⟨paragraph, following, isParagraph, leaves, rfl⟩
      have longer := isParagraph_cons isInline isBreak isParagraph
      cases isOpen
      · exact leaves_cellParagraph longer leaves
      · exact ⟨unit :: paragraph, following, longer, leaves, rfl⟩

/-- Behind the rows of a table its end is read. -/
theorem leaves_tableEnd {rest : Buffer} (leaves : PartsLeft rest) :
    RowsLeft (.tableEnd :: rest) := by
  exact ⟨[], rest, by simp, leaves, rfl⟩

theorem leaves_rowStart {rest : Buffer} (leaves : CellsLeft rest) :
    RowsLeft (.rowStart :: rest) := by
  rcases leaves with ⟨cells, following, areCells, leavesRows, rfl⟩
  rcases leavesRows with ⟨rows, behind, areRows, leavesBehind, rfl⟩
  refine ⟨cells :: rows, behind, ?_, leavesBehind, by simp [rowUnits]⟩
  intro row mem
  rcases List.mem_cons.mp mem with rfl | mem
  · exact areCells
  · exact areRows row mem

theorem leaves_cellStart {rest : Buffer} (leaves : ParagraphThen ParagraphsLeft rest) :
    CellsLeft (.cellStart :: rest) := by
  rcases leaves with ⟨paragraph, following, isParagraph, leavesCell, rfl⟩
  rcases leavesCell with ⟨paragraphs, behind, areParagraphs, leavesRow, rfl⟩
  rcases leavesRow with ⟨cells, further, areCells, leavesTable, rfl⟩
  refine ⟨(paragraph :: paragraphs) :: cells, further, ?_, leavesTable, by simp [cellUnits]⟩
  intro cell mem
  rcases List.mem_cons.mp mem with rfl | mem
  · refine ⟨by simp, ?_⟩
    intro other otherMem
    rcases List.mem_cons.mp otherMem with rfl | otherMem
    · exact isParagraph
    · exact areParagraphs other otherMem
  · exact areCells cell mem

theorem leaves_row_of_table {rest : Buffer} (leaves : RowsLeft rest) :
    CellsLeft rest := by
  exact ⟨[], rest, by simp, leaves, rfl⟩

theorem leaves_cell_of_row {rest : Buffer} (leaves : CellsLeft rest) :
    ParagraphsLeft rest := by
  exact ⟨[], rest, by simp, leaves, rfl⟩

theorem leaves_tableStart {rest : Buffer} (leaves : RowsLeft rest) :
    PartsLeft (.tableStart :: rest) := by
  rcases leaves with ⟨rows, following, areRows, leavesParts, rfl⟩
  rcases leavesParts with ⟨parts, wellFormed, rfl⟩
  refine ⟨.table rows :: parts, ?_, by simp [BodyPart.units]⟩
  intro part mem
  rcases List.mem_cons.mp mem with rfl | mem
  · exact areRows
  · exact wellFormed part mem

/-- Units that are read to the end of a body are the rest of what has been opened, and parts. -/
theorem leaves_of_after? {mode : Mode} {rest : Buffer}
    (reads : mode.after? rest = some (.body false)) : mode.Leaves rest := by
  induction rest generalizing mode with
  | nil =>
      cases reads
      exact ⟨[], by simp, rfl⟩
  | cons unit rest step =>
      rw [after?, Option.bind_eq_some_iff] at reads
      rcases reads with ⟨next, here, further⟩
      have leaves := step further
      by_cases isInline : unit.isInline = true
      · rcases region?_of_next?_inline isInline here with ⟨region, there⟩
        rw [next?_inline there isInline] at here
        cases here
        exact leaves_inline there isInline leaves
      · cases unit <;> simp only [BodyUnit.isInline, not_true_eq_false] at isInline
        case tableStart =>
          rcases mode with isOpen | _ | _ | _ | isOpen <;> (try cases isOpen) <;>
            simp only [next?, reduceCtorEq, Option.some.injEq] at here
          subst next
          exact leaves_tableStart leaves
        case rowStart =>
          rcases mode with isOpen | _ | _ | _ | isOpen <;> (try cases isOpen) <;>
            simp only [next?, reduceCtorEq, Option.some.injEq] at here <;> subst next
          · exact leaves_rowStart leaves
          · exact leaves_row_of_table (leaves_rowStart leaves)
          · exact leaves_cell_of_row (leaves_row_of_table (leaves_rowStart leaves))
        case cellStart =>
          rcases mode with isOpen | _ | _ | _ | isOpen <;> (try cases isOpen) <;>
            simp only [next?, reduceCtorEq, Option.some.injEq] at here <;> subst next
          · exact leaves_cellStart leaves
          · exact leaves_cell_of_row (leaves_cellStart leaves)
        case tableEnd =>
          rcases mode with isOpen | _ | _ | _ | isOpen <;> (try cases isOpen) <;>
            simp only [next?, reduceCtorEq, Option.some.injEq] at here <;> subst next
          · exact leaves_tableEnd leaves
          · exact leaves_row_of_table (leaves_tableEnd leaves)
          · exact leaves_cell_of_row (leaves_row_of_table (leaves_tableEnd leaves))

end Mode

/-- A well-formed buffer is made of well-formed parts. -/
theorem Buffer.WellFormed.exists_parts {buffer : Buffer} (wellFormed : buffer.WellFormed) :
    ∃ parts : List BodyPart, (∀ part ∈ parts, part.WellFormed) ∧
      buffer = parts.flatMap BodyPart.units :=
  Mode.leaves_of_after? wellFormed.reads

/-! ## The parts are found again -/

theorem bodyParts_append (units rest : Buffer) :
    bodyParts units.length (units ++ rest) = bodyParts 0 rest := by
  induction units with
  | nil => rfl
  | cons unit others step => simpa [bodyParts] using step

/-- The leading paragraph ends with the first line feed. -/
theorem leadingParagraph_append {paragraph : Buffer} (isParagraph : IsParagraph paragraph)
    (rest : Buffer) : leadingParagraph (paragraph ++ rest) = paragraph := by
  rcases isParagraph with ⟨inside, rfl, inside_inline⟩
  induction inside with
  | nil => simp [leadingParagraph]
  | cons unit others step =>
      rcases inside_inline unit List.mem_cons_self with ⟨isInline, notBreak⟩
      have behind := step fun other mem => inside_inline other (List.mem_cons_of_mem _ mem)
      simp only [List.cons_append, leadingParagraph, beq_iff_eq, notBreak, isInline, if_true,
        if_false, behind]

/-- Paragraphs put together are cut again behind their line feeds. -/
theorem paragraphsOf_flatten {paragraphs : List Buffer}
    (areParagraphs : ∀ paragraph ∈ paragraphs, IsParagraph paragraph) :
    paragraphsOf paragraphs.flatten = paragraphs := by
  induction paragraphs with
  | nil => rfl
  | cons paragraph others step =>
      have behind := step fun other mem => areParagraphs other (List.mem_cons_of_mem _ mem)
      rcases areParagraphs paragraph List.mem_cons_self with ⟨inside, rfl, inside_inline⟩
      clear areParagraphs step
      induction inside with
      | nil => simp [paragraphsOf, behind]
      | cons unit within step =>
          have notBreak := (inside_inline unit List.mem_cons_self).2
          have further := step fun other mem => inside_inline other (List.mem_cons_of_mem _ mem)
          rw [List.flatten_cons] at further ⊢
          rw [List.cons_append, List.cons_append, paragraphsOf, further]
          simp [notBreak]

/-- Runs behind a marker are cut again at the marker, which stands nowhere inside them. -/
theorem sections_flatMap (marker : BodyUnit) (runs : List Buffer)
    (absent : ∀ run ∈ runs, marker ∉ run) :
    sections marker (runs.flatMap fun run => marker :: run) = runs := by
  have skipped : ∀ (run rest : Buffer), marker ∉ run →
      sections marker (run ++ rest) = sections marker rest := by
    intro run rest notMem
    induction run with
    | nil => rfl
    | cons unit others step =>
        have differs : unit ≠ marker := fun same => notMem (same ▸ List.mem_cons_self)
        rw [List.cons_append, sections]
        simp only [beq_iff_eq, differs, if_false]
        exact step fun mem => notMem (List.mem_cons_of_mem _ mem)
  have taken : ∀ (run : Buffer) (others : List Buffer), marker ∉ run →
      (run ++ others.flatMap fun run => marker :: run).takeWhile (· != marker) = run := by
    intro run others notMem
    rw [List.takeWhile_append_of_pos]
    · cases others <;> simp
    · intro unit mem
      exact bne_iff_ne.mpr fun same => notMem (same ▸ mem)
  induction runs with
  | nil => rfl
  | cons run others step =>
      have notMem := absent run List.mem_cons_self
      have further := step fun other mem => absent other (List.mem_cons_of_mem _ mem)
      rw [List.flatMap_cons, List.cons_append, sections]
      simp only [beq_self_eq_true, if_true]
      rw [taken run others notMem, skipped run _ notMem, further]

/-- The units of a paragraph are inline. -/
theorem isInline_of_mem_paragraph {paragraph : Buffer} (isParagraph : IsParagraph paragraph)
    {unit : BodyUnit} (mem : unit ∈ paragraph) : unit.isInline = true := by
  rcases isParagraph with ⟨inside, rfl, inside_inline⟩
  rcases List.mem_append.mp mem with mem | mem
  · exact (inside_inline unit mem).1
  · rw [List.mem_singleton.mp mem]
    rfl

theorem not_mem_cell_flatten {cell : List Buffer} (isCell : IsCell cell) {marker : BodyUnit}
    (isMarker : marker.isInline = false) : marker ∉ cell.flatten := by
  intro mem
  rcases List.mem_flatten.mp mem with ⟨paragraph, paragraphMem, unitMem⟩
  have isInline := isInline_of_mem_paragraph (isCell.2 paragraph paragraphMem) unitMem
  rw [isMarker] at isInline
  cases isInline

theorem not_mem_rowUnits {row : List (List Buffer)} (areCells : ∀ cell ∈ row, IsCell cell)
    {marker : BodyUnit} (isMarker : marker.isInline = false) (notRow : marker ≠ .rowStart)
    (notCell : marker ≠ .cellStart) : marker ∉ rowUnits row := by
  intro mem
  rcases List.mem_cons.mp mem with same | mem
  · exact notRow same
  · rcases List.mem_flatMap.mp mem with ⟨cell, cellMem, unitMem⟩
    rcases List.mem_cons.mp unitMem with same | unitMem
    · exact notCell same
    · exact not_mem_cell_flatten (areCells cell cellMem) isMarker unitMem

/-- The rows of a table are found again, with the paragraphs of their cells. -/
theorem tableRows_flatMap {rows : List (List (List Buffer))}
    (areRows : ∀ row ∈ rows, ∀ cell ∈ row, IsCell cell) :
    tableRows (rows.flatMap rowUnits) = rows := by
  have cut : sections .rowStart (rows.flatMap rowUnits) = rows.map (·.flatMap cellUnits) := by
    have split := sections_flatMap .rowStart (rows.map (·.flatMap cellUnits))
      (by
        intro run mem
        rcases List.mem_map.mp mem with ⟨row, rowMem, rfl⟩
        intro inside
        rcases List.mem_flatMap.mp inside with ⟨cell, cellMem, unitMem⟩
        rcases List.mem_cons.mp unitMem with same | unitMem
        · cases same
        · exact not_mem_cell_flatten (areRows row rowMem cell cellMem) rfl unitMem)
    rwa [List.flatMap_map] at split
  have cells : ∀ row ∈ rows,
      (sections .cellStart (row.flatMap cellUnits)).map paragraphsOf = row := by
    intro row rowMem
    have split := sections_flatMap .cellStart (row.map List.flatten)
      (by
        intro run mem
        rcases List.mem_map.mp mem with ⟨cell, cellMem, rfl⟩
        exact not_mem_cell_flatten (areRows row rowMem cell cellMem) rfl)
    rw [List.flatMap_map] at split
    unfold cellUnits
    rw [split, List.map_map]
    conv_rhs => rw [← List.map_id row]
    apply List.map_congr_left
    intro cell cellMem
    exact paragraphsOf_flatten (areRows row rowMem cell cellMem).2
  rw [tableRows, cut, List.map_map]
  conv_rhs => rw [← List.map_id rows]
  exact List.map_congr_left cells

theorem not_mem_tableEnd {rows : List (List (List Buffer))}
    (areRows : ∀ row ∈ rows, ∀ cell ∈ row, IsCell cell) :
    BodyUnit.tableEnd ∉ rows.flatMap rowUnits := by
  intro mem
  rcases List.mem_flatMap.mp mem with ⟨row, rowMem, unitMem⟩
  exact not_mem_rowUnits (areRows row rowMem) rfl (by simp) (by simp) unitMem

/-- The parts of a buffer are the ones it is made of. -/
theorem bodyParts_flatMap {parts : List BodyPart}
    (wellFormed : ∀ part ∈ parts, part.WellFormed) :
    bodyParts 0 (parts.flatMap BodyPart.units) = parts := by
  induction parts with
  | nil => rfl
  | cons part others step =>
      have further := step fun other mem => wellFormed other (List.mem_cons_of_mem _ mem)
      have here := wellFormed part List.mem_cons_self
      rw [List.flatMap_cons]
      cases part with
      | paragraph units =>
          have leading := leadingParagraph_append here (others.flatMap BodyPart.units)
          cases units with
          | nil =>
              rcases here with ⟨inside, empty, _⟩
              simp at empty
          | cons unit rest =>
              have isInline : unit.isInline = true :=
                isInline_of_mem_paragraph here List.mem_cons_self
              have notTable : unit ≠ .tableStart := by
                rintro rfl
                cases isInline
              simp only [BodyPart.units, List.cons_append] at leading ⊢
              rw [bodyParts]
              simp only [beq_iff_eq, notTable, if_false, isInline, if_true, leading,
                List.length_cons, Nat.add_sub_cancel, bodyParts_append, further]
      | table rows =>
          have absent := not_mem_tableEnd here
          have inner : (rows.flatMap rowUnits ++ .tableEnd :: others.flatMap BodyPart.units).takeWhile
              (· != .tableEnd) = rows.flatMap rowUnits := by
            rw [List.takeWhile_append_of_pos]
            · simp
            · intro unit mem
              exact bne_iff_ne.mpr fun same => absent (same ▸ mem)
          have behind := bodyParts_append (rows.flatMap rowUnits ++ [.tableEnd])
            (others.flatMap BodyPart.units)
          rw [List.length_append, List.append_assoc] at behind
          simp only [List.length_singleton, List.singleton_append] at behind
          simp only [BodyPart.units, List.cons_append, List.append_assoc, List.nil_append]
          rw [bodyParts]
          simp only [beq_self_eq_true, if_true, inner, tableRows_flatMap here, behind, further]

end DocBinder.Docs
