import DocBinder.Docs.FlatText
import DocBinder.Proofs.Buffer.Parts

/-!
# What a snapshot shows of a buffer

A snapshot is read back from the wire form of a document. For a well-formed buffer it shows just
what is there: its end is the end of the buffer, its flat text holds the characters of the buffer
with the indices at which they begin, and its tables are the tables of the buffer, with every
cell's first paragraph behind the marker of the cell.
-/

namespace DocBinder

namespace Value

@[simp] theorem get?_record_cons (key name : String) (value : Value)
    (rest : List (String × Value)) :
    (record ((key, value) :: rest)).get? name =
      if key == name then some value else (record rest).get? name :=
  rfl

@[simp] theorem get?_record_nil (name : String) : (record []).get? name = none :=
  rfl

@[simp] theorem items_list (values : List Value) : (Value.list values).items = values :=
  rfl

@[simp] theorem nat?_int (number : Nat) : (Value.int number).nat? = some number := by
  have notNegative : ¬ (number : Int) < 0 := by omega
  simp [nat?, notNegative]

@[simp] theorem string?_str (text : String) : (Value.str text).string? = some text :=
  rfl

end Value

namespace Docs

/-! ## The characters of units -/

/-- The characters of units with their indices, when the first unit begins at `index`. -/
def unitMarks (index : Nat) : Buffer → List (Char × Nat)
  | [] => []
  | .char character :: rest =>
      (character, index) :: unitMarks (index + Text.charWidth character) rest
  | _ :: rest => unitMarks (index + 1) rest

/-- The characters of units outside tables with their indices, when the first unit begins at
`index`; `inside` tells that a table has begun. -/
def topMarks (index : Nat) (inside : Bool) : Buffer → List (Char × Nat)
  | [] => []
  | .char character :: rest =>
      let following := topMarks (index + Text.charWidth character) inside rest
      if inside then following else (character, index) :: following
  | .tableStart :: rest => topMarks (index + 1) true rest
  | .tableEnd :: rest => topMarks (index + 1) false rest
  | .rowStart :: rest | .cellStart :: rest | .image _ :: rest => topMarks (index + 1) inside rest

theorem unitMarks_append (index : Nat) (first second : Buffer) :
    unitMarks index (first ++ second) =
      unitMarks index first ++ unitMarks (index + first.width) second := by
  induction first generalizing index with
  | nil => rfl
  | cons unit rest step =>
      cases unit <;>
        simp [unitMarks, step, BodyUnit.width, Nat.add_assoc]

/-- The characters of units are those of their text. -/
theorem map_fst_unitMarks (index : Nat) (buffer : Buffer) :
    (unitMarks index buffer).map (·.1) = buffer.text := by
  induction buffer generalizing index with
  | nil => rfl
  | cons unit rest step =>
      cases unit <;> simp [unitMarks, Buffer.text_cons, BodyUnit.char?, step]

theorem unitMarks_chars (index : Nat) (text : Text) :
    unitMarks index (text.map .char) = placeChars index text := by
  induction text generalizing index with
  | nil => rfl
  | cons character rest step => simp [unitMarks, placeChars, step]

theorem placeChars_append (index : Nat) (first second : Text) :
    placeChars index (first ++ second) =
      placeChars index first ++ placeChars (index + Text.width first) second := by
  induction first generalizing index with
  | nil => rfl
  | cons character rest step =>
      simp [placeChars, step, Text.width, Nat.add_assoc]

/-! ## Paragraphs -/

/-- The runs of a paragraph that begins at an index. -/
def paragraphRuns (index : Nat) (units : Buffer) : List TextRun :=
  (paragraphElements index none units).filterMap (TextRun.ofValue? index)

/-- The characters of runs. -/
def runMarks (runs : List TextRun) : List (Char × Nat) :=
  runs.flatMap fun run => placeChars run.start run.content

theorem runMarks_flush (default index start : Nat) (read : Text) :
    runMarks ((paragraphElements.flush index (some (start, read))).filterMap
      (TextRun.ofValue? default)) = placeChars start read.reverse := by
  simp [paragraphElements.flush, covering, TextRun.ofValue?, indexOf, Value.part, runMarks]

theorem runMarks_flush_none (default index : Nat) :
    runMarks ((paragraphElements.flush index none).filterMap (TextRun.ofValue? default)) = [] :=
  rfl

theorem runMarks_append (first second : List TextRun) :
    runMarks (first ++ second) = runMarks first ++ runMarks second := by
  simp [runMarks]

/-- The elements of a paragraph hold the characters read so far, and then those of its units. -/
theorem runMarks_paragraphElements (default index start : Nat) (read : Text) (units : Buffer)
    (behind : start + Text.width read.reverse = index) :
    runMarks ((paragraphElements index (some (start, read)) units).filterMap
        (TextRun.ofValue? default)) =
      placeChars start read.reverse ++ unitMarks index units ∧
    runMarks ((paragraphElements index none units).filterMap (TextRun.ofValue? default)) =
      unitMarks index units := by
  induction units generalizing index start read with
  | nil =>
      constructor
      · simpa [paragraphElements, unitMarks] using runMarks_flush default index start read
      · rfl
  | cons unit rest step =>
      have afterOther := (step (index + 1) (index + 1) [] (by simp [Text.width])).2
      cases unit with
      | char character =>
          constructor
          · have further := (step (index + Text.charWidth character) start (character :: read)
              (by rw [List.reverse_cons, ← behind]; simp [Text.width, Nat.add_assoc])).1
            rw [paragraphElements, further, List.reverse_cons, placeChars_append, behind]
            simp [placeChars, unitMarks]
          · have further := (step (index + Text.charWidth character) index [character]
              (by simp [Text.width])).1
            rw [paragraphElements, further]
            simp [placeChars, unitMarks]
      | image uri =>
          have skipped : (covering index (index + 1)
              [("inlineObjectElement",
                .record [("inlineObjectId", .str (String.ofList uri))])]).get? "textRun" = none :=
            rfl
          constructor
          · rw [paragraphElements, List.filterMap_append, runMarks_append, runMarks_flush,
              List.filterMap_cons]
            simp only [TextRun.ofValue?, skipped, Option.map_none]
            rw [show unitMarks index (.image uri :: rest) = unitMarks (index + 1) rest from rfl]
            exact congrArg _ afterOther
          · rw [paragraphElements, List.filterMap_append, runMarks_append, runMarks_flush_none,
              List.filterMap_cons]
            simp only [TextRun.ofValue?, skipped, Option.map_none]
            exact afterOther
      | _ =>
          constructor
          · rw [paragraphElements, List.filterMap_append, runMarks_append, runMarks_flush]
            exact congrArg _ afterOther
          · rw [paragraphElements, List.filterMap_append, runMarks_append, runMarks_flush_none]
            exact afterOther

/-- The runs of a paragraph hold its characters. -/
theorem runMarks_paragraphRuns (index : Nat) (units : Buffer) :
    runMarks (paragraphRuns index units) = unitMarks index units :=
  (runMarks_paragraphElements index index index [] units (by simp [Text.width])).2

/-! ## Elements -/

/-- The element of a paragraph that begins at an index. -/
def paragraphElement (index : Nat) (units : Buffer) : Element :=
  .paragraph index (index + units.width) (paragraphRuns index units)

/-- The elements of paragraphs, the first of which begins at an index. -/
def paragraphList (index : Nat) : List Buffer → List Element
  | [] => []
  | units :: rest => paragraphElement index units :: paragraphList (index + units.width) rest

/-- The cells of a row, the marker of the first of which stands at an index. -/
def cellList (index : Nat) : List (List Buffer) → List Cell
  | [] => []
  | cell :: rest =>
      .mk index (index + 1 + paragraphsWidth cell) (paragraphList (index + 1) cell)
        :: cellList (index + 1 + paragraphsWidth cell) rest

/-- The rows of a table, the marker of the first of which stands at an index. -/
def rowList (index : Nat) : List (List (List Buffer)) → List (List Cell)
  | [] => []
  | row :: rest => cellList (index + 1) row :: rowList (index + 1 + cellsWidth row) rest

/-- The element of a part that begins at an index. -/
def BodyPart.element (index : Nat) : BodyPart → Element
  | .paragraph units => paragraphElement index units
  | .table rows => .table index (index + 2 + rowsWidth rows) (rowList (index + 1) rows)

/-- The elements of parts, the first of which begins at an index. -/
def partList (index : Nat) : List BodyPart → List Element
  | [] => []
  | part :: rest => part.element index :: partList (index + part.width) rest

theorem indexOf_covering_start (start stop default : Nat) (fields : List (String × Value)) :
    indexOf (covering start stop fields) "startIndex" default = start := by
  simp [indexOf, covering, Value.part]

theorem indexOf_covering_stop (start stop default : Nat) (fields : List (String × Value)) :
    indexOf (covering start stop fields) "endIndex" default = stop := by
  simp [indexOf, covering, Value.part]

theorem get?_covering {start stop : Nat} {fields : List (String × Value)} {name : String}
    (notStart : "startIndex" ≠ name) (notStop : "endIndex" ≠ name) :
    (covering start stop fields).get? name = (Value.record fields).get? name := by
  simp [covering, notStart, notStop]

theorem ofValue_paragraphValue (index : Nat) (units : Buffer) :
    Element.ofValue (paragraphValue index units) = paragraphElement index units := by
  rw [Element.ofValue, paragraphValue, indexOf_covering_start, indexOf_covering_stop,
    get?_covering (by decide) (by decide)]
  simp [paragraphElement, paragraphRuns, Value.part]

theorem map_ofValue_paragraphValues (index : Nat) (paragraphs : List Buffer) :
    (paragraphValues index paragraphs).map Element.ofValue = paragraphList index paragraphs := by
  induction paragraphs generalizing index with
  | nil => rfl
  | cons units rest step =>
      simp [paragraphValues, paragraphList, ofValue_paragraphValue, step]

/-- The cell that an item of a row stands for. -/
def cellOfValue (start : Nat) (cell : Value) : Cell :=
  .mk (indexOf cell "startIndex" start) (indexOf cell "endIndex" start)
    ((cell.part "content").items.map Element.ofValue)

theorem map_cellOfValue_cellValues (start index : Nat) (cells : List (List Buffer)) :
    (cellValues index cells).map (cellOfValue start) = cellList index cells := by
  induction cells generalizing index with
  | nil => rfl
  | cons cell rest step =>
      have content : (covering index (index + 1 + paragraphsWidth cell)
          [("content", .list (paragraphValues (index + 1) cell))]).part "content" =
          .list (paragraphValues (index + 1) cell) := by
        simp [Value.part, covering]
      rw [cellValues, List.map_cons, step, cellOfValue, indexOf_covering_start,
        indexOf_covering_stop, content, Value.items_list, map_ofValue_paragraphValues]
      rfl

theorem map_rowValues (start index : Nat) (rows : List (List (List Buffer))) :
    ((rowValues index rows).map fun row =>
        (row.part "tableCells").items.map (cellOfValue start)) =
      rowList index rows := by
  induction rows generalizing index with
  | nil => rfl
  | cons row rest step =>
      have content : (covering index (index + 1 + cellsWidth row)
          [("tableCells", .list (cellValues (index + 1) row))]).part "tableCells" =
          .list (cellValues (index + 1) row) := by
        simp [Value.part, covering]
      rw [rowValues, List.map_cons, step, content, Value.items_list, map_cellOfValue_cellValues]
      rfl

/-- An item that is a table becomes a table with the cells of its rows. -/
theorem ofValue_table {item : Value} (table : Value) (notParagraph : item.get? "paragraph" = none)
    (isTable : item.get? "table" = some table) :
    Element.ofValue item =
      .table (indexOf item "startIndex" 0) (indexOf item "endIndex" (indexOf item "startIndex" 0))
        ((table.part "tableRows").items.map fun row =>
          (row.part "tableCells").items.map (cellOfValue (indexOf item "startIndex" 0))) := by
  have tablePart : item.part "table" = table := by simp [Value.part, isTable]
  rw [Element.ofValue, notParagraph, isTable]
  simp only [Option.isSome_some, if_true, Element.table.injEq, true_and, List.map_subtype,
    List.unattach_attach, tablePart]
  rfl

theorem ofValue_toValue (index : Nat) (part : BodyPart) :
    Element.ofValue (part.toValue index) = part.element index := by
  cases part with
  | paragraph units => exact ofValue_paragraphValue index units
  | table rows =>
      rw [BodyPart.toValue, ofValue_table (.record [
          ("rows", .int rows.length), ("columns", .int ((rows.head?.map List.length).getD 0)),
          ("tableRows", .list (rowValues (index + 1) rows))])]
      · rw [indexOf_covering_start, indexOf_covering_stop]
        have content : (Value.record [("rows", .int rows.length),
            ("columns", .int ((rows.head?.map List.length).getD 0)),
            ("tableRows", .list (rowValues (index + 1) rows))]).part "tableRows" =
            .list (rowValues (index + 1) rows) := by
          simp [Value.part]
        rw [content, Value.items_list, map_rowValues]
        rfl
      · simp [covering]
      · simp [covering]

theorem map_ofValue_partValues (index : Nat) (parts : List BodyPart) :
    (partValues index parts).map Element.ofValue = partList index parts := by
  induction parts generalizing index with
  | nil => rfl
  | cons part rest step => simp [partValues, partList, ofValue_toValue, step]

/-! ## Widths of parts -/

theorem paragraphsWidth_eq (paragraphs : List Buffer) :
    paragraphsWidth paragraphs = Buffer.width paragraphs.flatten := by
  induction paragraphs with
  | nil => rfl
  | cons paragraph rest step =>
      rw [List.flatten_cons, Buffer.width_append, ← step]
      rfl

theorem cellsWidth_eq (cells : List (List Buffer)) :
    cellsWidth cells = Buffer.width (cells.flatMap cellUnits) := by
  induction cells with
  | nil => rfl
  | cons cell rest step =>
      rw [List.flatMap_cons, Buffer.width_append, ← step, cellUnits, Buffer.width_cons,
        ← paragraphsWidth_eq]
      rfl

theorem rowsWidth_eq (rows : List (List (List Buffer))) :
    rowsWidth rows = Buffer.width (rows.flatMap rowUnits) := by
  induction rows with
  | nil => rfl
  | cons row rest step =>
      rw [List.flatMap_cons, Buffer.width_append, ← step, rowUnits, Buffer.width_cons,
        ← cellsWidth_eq]
      rfl

/-- A part takes as many index units as its units. -/
theorem BodyPart.width_eq (part : BodyPart) : part.width = part.units.width := by
  cases part with
  | paragraph units => rfl
  | table rows =>
      simp only [BodyPart.width, BodyPart.units, Buffer.width_cons, Buffer.width_append,
        rowsWidth_eq, Buffer.width_nil, BodyUnit.width]
      omega

/-! ## Characters of elements -/

theorem elementsMarks_paragraphList (withTables : Bool) (index : Nat) (paragraphs : List Buffer) :
    elementsMarks withTables (paragraphList index paragraphs) =
      unitMarks index paragraphs.flatten := by
  induction paragraphs generalizing index with
  | nil => rfl
  | cons units rest step =>
      rw [paragraphList, elementsMarks, step, List.flatten_cons, unitMarks_append]
      congr 1
      exact runMarks_paragraphRuns index units

theorem cellsMarks_cellList (withTables : Bool) (index : Nat) (cells : List (List Buffer)) :
    cellsMarks withTables (cellList index cells) = unitMarks index (cells.flatMap cellUnits) := by
  induction cells generalizing index with
  | nil => rfl
  | cons cell rest step =>
      rw [cellList, cellsMarks, step, Cell.marks, elementsMarks_paragraphList, List.flatMap_cons,
        unitMarks_append, cellUnits, Buffer.width_cons, ← paragraphsWidth_eq, ← Nat.add_assoc]
      rfl

theorem rowsMarks_rowList (withTables : Bool) (index : Nat) (rows : List (List (List Buffer))) :
    rowsMarks withTables (rowList index rows) = unitMarks index (rows.flatMap rowUnits) := by
  induction rows generalizing index with
  | nil => rfl
  | cons row rest step =>
      rw [rowList, rowsMarks, step, cellsMarks_cellList, List.flatMap_cons, unitMarks_append,
        rowUnits, Buffer.width_cons, ← cellsWidth_eq, ← Nat.add_assoc]
      rfl

/-- With tables, the elements of parts hold the characters of all their units. -/
theorem elementsMarks_partList (index : Nat) (parts : List BodyPart) :
    elementsMarks true (partList index parts) =
      unitMarks index (parts.flatMap BodyPart.units) := by
  induction parts generalizing index with
  | nil => rfl
  | cons part rest step =>
      rw [partList, elementsMarks, step, List.flatMap_cons, unitMarks_append, BodyPart.width_eq]
      congr 1
      cases part with
      | paragraph units => exact runMarks_paragraphRuns index units
      | table rows =>
          have begun (others : Buffer) :
              unitMarks index (.tableStart :: others) = unitMarks (index + 1) others := rfl
          rw [BodyPart.element, Element.marks, if_pos rfl, rowsMarks_rowList, BodyPart.units,
            begun, unitMarks_append]
          simp [unitMarks]

theorem topMarks_append_inside (index : Nat) {inner : Buffer} (rest : Buffer)
    (noMarker : BodyUnit.tableStart ∉ inner ∧ BodyUnit.tableEnd ∉ inner) :
    topMarks index true (inner ++ rest) = topMarks (index + inner.width) true rest := by
  induction inner generalizing index with
  | nil => rfl
  | cons unit others step =>
      have further := fun index => step index
        ⟨fun mem => noMarker.1 (List.mem_cons_of_mem _ mem),
          fun mem => noMarker.2 (List.mem_cons_of_mem _ mem)⟩
      cases unit with
      | tableStart => exact absurd List.mem_cons_self noMarker.1
      | tableEnd => exact absurd List.mem_cons_self noMarker.2
      | _ => simp [topMarks, further, BodyUnit.width, Nat.add_assoc]

theorem topMarks_append_inline (index : Nat) {inner : Buffer} (rest : Buffer)
    (inline : ∀ unit ∈ inner, unit.isInline = true) :
    topMarks index false (inner ++ rest) =
      unitMarks index inner ++ topMarks (index + inner.width) false rest := by
  induction inner generalizing index with
  | nil => rfl
  | cons unit others step =>
      have further := fun index => step index
        fun other mem => inline other (List.mem_cons_of_mem _ mem)
      have isInline := inline unit List.mem_cons_self
      cases unit <;> simp only [BodyUnit.isInline, reduceCtorEq] at isInline <;>
        simp [topMarks, unitMarks, further, BodyUnit.width, Nat.add_assoc]

theorem not_mem_tableStart {rows : List (List (List Buffer))}
    (areRows : ∀ row ∈ rows, ∀ cell ∈ row, IsCell cell) :
    BodyUnit.tableStart ∉ rows.flatMap rowUnits := by
  intro mem
  rcases List.mem_flatMap.mp mem with ⟨row, rowMem, unitMem⟩
  exact not_mem_rowUnits (areRows row rowMem) rfl (by simp) (by simp) unitMem

/-- Without tables, the elements of parts hold the characters of their units outside tables. -/
theorem elementsMarks_partList_top {parts : List BodyPart} (index : Nat)
    (wellFormed : ∀ part ∈ parts, part.WellFormed) :
    elementsMarks false (partList index parts) =
      topMarks index false (parts.flatMap BodyPart.units) := by
  induction parts generalizing index with
  | nil => rfl
  | cons part rest step =>
      have further := fun index => step index
        fun other mem => wellFormed other (List.mem_cons_of_mem _ mem)
      have here := wellFormed part List.mem_cons_self
      rw [partList, elementsMarks, further, List.flatMap_cons, BodyPart.width_eq]
      cases part with
      | paragraph units =>
          rw [BodyPart.units, topMarks_append_inline index _
            fun unit mem => isInline_of_mem_paragraph here mem]
          congr 1
          exact runMarks_paragraphRuns index units
      | table rows =>
          have inside := topMarks_append_inside (index + 1)
            (.tableEnd :: rest.flatMap BodyPart.units)
            ⟨not_mem_tableStart here, not_mem_tableEnd here⟩
          simp only [BodyPart.element, Element.marks, BodyPart.units, List.cons_append,
            List.append_assoc, List.nil_append, topMarks, inside, Buffer.width_cons,
            Buffer.width_append, Buffer.width_nil, BodyUnit.width]
          simp [Nat.add_assoc, Nat.add_comm, Nat.add_left_comm]

/-! ## Tables -/

/-- The tables of units: where each begins, and the units between its markers. -/
def tableMarks (index : Nat) : Buffer → List (Nat × Buffer)
  | [] => []
  | .tableStart :: rest =>
      (index, rest.takeWhile (· != .tableEnd)) :: tableMarks (index + 1) rest
  | unit :: rest => tableMarks (index + unit.width) rest

/-- The element of a table that begins at an index. -/
def tableElement (mark : Nat × Buffer) : Element :=
  (BodyPart.table (tableRows mark.2)).element mark.1

theorem tableMarks_append (index : Nat) {inner : Buffer} (rest : Buffer)
    (noTable : BodyUnit.tableStart ∉ inner) :
    tableMarks index (inner ++ rest) = tableMarks (index + inner.width) rest := by
  induction inner generalizing index with
  | nil => rfl
  | cons unit others step =>
      have further := fun index => step index fun mem => noTable (List.mem_cons_of_mem _ mem)
      cases unit with
      | tableStart => exact absurd List.mem_cons_self noTable
      | _ => simp [tableMarks, further, BodyUnit.width, Nat.add_assoc]

/-- The tables among the elements of parts are those of their units. -/
theorem filter_partList {parts : List BodyPart} (index : Nat)
    (wellFormed : ∀ part ∈ parts, part.WellFormed) :
    (partList index parts).filter (fun element => element.rows?.isSome) =
      (tableMarks index (parts.flatMap BodyPart.units)).map tableElement := by
  induction parts generalizing index with
  | nil => rfl
  | cons part rest step =>
      have further := fun index => step index
        fun other mem => wellFormed other (List.mem_cons_of_mem _ mem)
      have here := wellFormed part List.mem_cons_self
      rw [partList, List.filter_cons, further, List.flatMap_cons, BodyPart.width_eq]
      cases part with
      | paragraph units =>
          have noTable : BodyUnit.tableStart ∉ units := by
            intro mem
            cases isInline_of_mem_paragraph here mem
          rw [BodyPart.units, tableMarks_append index _ noTable]
          rfl
      | table rows =>
          have absent := not_mem_tableEnd here
          have inner : (rows.flatMap rowUnits ++ .tableEnd :: rest.flatMap BodyPart.units).takeWhile
              (· != .tableEnd) = rows.flatMap rowUnits := by
            rw [List.takeWhile_append_of_pos]
            · simp
            · intro unit mem
              exact bne_iff_ne.mpr fun same => absent (same ▸ mem)
          simp only [BodyPart.units, List.cons_append, List.append_assoc, List.nil_append,
            tableMarks, inner, tableMarks_append _ _ (not_mem_tableStart here), List.map_cons,
            tableElement, tableRows_flatMap here, Buffer.width_cons, Buffer.width_append,
            Buffer.width_nil, BodyUnit.width]
          simp [BodyPart.element, Element.rows?, Nat.add_assoc, Nat.add_comm, Nat.add_left_comm]

/-! ## Rows and cells -/

theorem getElem?_cellList (index : Nat) (cells : List (List Buffer)) (column : Nat) :
    (cellList index cells)[column]? = cells[column]?.map fun cell =>
      .mk (index + cellsWidth (cells.take column))
        (index + cellsWidth (cells.take column) + 1 + paragraphsWidth cell)
        (paragraphList (index + cellsWidth (cells.take column) + 1) cell) := by
  induction cells generalizing index column with
  | nil => rfl
  | cons cell rest step =>
      cases column with
      | zero => rfl
      | succ column =>
          have width : cellsWidth ((cell :: rest).take (column + 1)) =
              1 + paragraphsWidth cell + cellsWidth (rest.take column) := rfl
          rw [cellList, List.getElem?_cons_succ, step, List.getElem?_cons_succ, width]
          simp only [Nat.add_assoc]

theorem getElem?_rowList (index : Nat) (rows : List (List (List Buffer))) (row : Nat) :
    (rowList index rows)[row]? = rows[row]?.map fun cells =>
      cellList (index + rowsWidth (rows.take row) + 1) cells := by
  induction rows generalizing index row with
  | nil => rfl
  | cons cells rest step =>
      cases row with
      | zero => rfl
      | succ row =>
          have width : rowsWidth ((cells :: rest).take (row + 1)) =
              1 + cellsWidth cells + rowsWidth (rest.take row) := rfl
          rw [rowList, List.getElem?_cons_succ, step, List.getElem?_cons_succ, width]
          simp only [Nat.add_assoc]

/-! ## The end -/

theorem getLast?_partList {parts : List BodyPart} (index : Nat) (nonempty : parts ≠ []) :
    ∃ element, (partList index parts).getLast? = some element ∧
      element.stop = index + Buffer.width (parts.flatMap BodyPart.units) := by
  induction parts generalizing index with
  | nil => exact absurd rfl nonempty
  | cons part rest step =>
      cases rest with
      | nil =>
          refine ⟨part.element index, rfl, ?_⟩
          rw [List.flatMap_cons, List.flatMap_nil, List.append_nil, ← BodyPart.width_eq]
          cases part with
          | paragraph units => rfl
          | table rows =>
              simp only [BodyPart.element, Element.stop, BodyPart.width]
              omega
      | cons next others =>
          rcases step (index + part.width) (by simp) with ⟨element, last, stop⟩
          refine ⟨element, ?_, ?_⟩
          · rw [partList, ← last, partList]
            exact List.getLast?_cons_cons
          · have whole : (part :: next :: others).flatMap BodyPart.units =
                part.units ++ (next :: others).flatMap BodyPart.units := rfl
            rw [stop, whole, Buffer.width_append, BodyPart.width_eq]
            omega

namespace Buffer

/-- What is seen of a buffer when it is fetched as a document. -/
def view (buffer : Buffer) (documentId title : String) : Snapshot :=
  Snapshot.ofDocument (buffer.toDocument documentId title)

/-- A snapshot shows the section break that every body begins with, and the parts of the body. -/
theorem elements_view (buffer : Buffer) (documentId title : String) :
    (buffer.view documentId title).elements =
      .sectionBreak 0 1 :: partList 1 (bodyParts 0 buffer) := by
  have content : ((buffer.toDocument documentId title).part "body").part "content" =
      .list (covering 0 1 [("sectionBreak", .record [])] :: partValues 1 (bodyParts 0 buffer)) := by
    simp [toDocument, Value.part]
  have sectionBreak : Element.ofValue (covering 0 1 [("sectionBreak", .record [])]) =
      .sectionBreak 0 1 := by
    rw [Element.ofValue, indexOf_covering_start, indexOf_covering_stop]
    simp [covering]
  rw [view, Snapshot.ofDocument, content, Value.items_list, List.map_cons, sectionBreak,
    map_ofValue_partValues]

section WellFormed

variable {buffer : Buffer} (wellFormed : buffer.WellFormed) (documentId title : String)

include wellFormed

/-- The end that a snapshot shows is the end of the buffer. -/
theorem endIndex_view : (buffer.view documentId title).endIndex = buffer.endIndex := by
  rcases wellFormed.exists_parts with ⟨parts, areParts, rfl⟩
  have nonempty : parts ≠ [] := by
    rintro rfl
    rcases wellFormed.ends with ⟨body, ends⟩
    simp at ends
  rcases getLast?_partList 1 nonempty with ⟨element, last, stop⟩
  have seen : (Element.sectionBreak 0 1 :: partList 1 parts).getLast? = some element := by
    rw [List.getLast?_cons, last]
    rfl
  rw [Snapshot.endIndex, elements_view, bodyParts_flatMap areParts, seen]
  simp only [stop, endIndex]
  omega

/-- With tables, the flat text of a snapshot holds every character of the buffer at its index. -/
theorem flatten_view_all :
    (buffer.view documentId title).flatten true = ⟨unitMarks 1 buffer⟩ := by
  rcases wellFormed.exists_parts with ⟨parts, areParts, rfl⟩
  rw [Snapshot.flatten, elements_view, bodyParts_flatMap areParts, elementsMarks,
    elementsMarks_partList]
  rfl

/-- Without tables, it holds every character outside tables. -/
theorem flatten_view_top :
    (buffer.view documentId title).flatten false = ⟨topMarks 1 false buffer⟩ := by
  rcases wellFormed.exists_parts with ⟨parts, areParts, rfl⟩
  rw [Snapshot.flatten, elements_view, bodyParts_flatMap areParts, elementsMarks,
    elementsMarks_partList_top 1 areParts]
  rfl

/-- The tables of a snapshot are those of the buffer. -/
theorem tables_view :
    (buffer.view documentId title).tables = (tableMarks 1 buffer).map tableElement := by
  rcases wellFormed.exists_parts with ⟨parts, areParts, rfl⟩
  rw [Snapshot.tables, elements_view, bodyParts_flatMap areParts, List.filter_cons,
    filter_partList 1 areParts]
  rfl

end WellFormed

end Buffer

end Docs

end DocBinder
