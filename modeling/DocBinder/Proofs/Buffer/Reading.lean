import DocBinder.Proofs.Buffer.Parts

/-!
# Loops that read a body

The wire form of a body is made in one pass over its units, by loops inside one another: over the parts of
the body, the rows of a table, the cells of a row and the paragraphs of a cell. No loop looks ahead, each
goes on until a unit of its own kind fails to come, and the outermost one reads a paragraph wherever no
table begins, even an empty one. So there are bodies on which they never end. The relations here are the
finite passes, one constructor for each turn a loop can take. A well-formed body has one, and it reads the
parts that the body is made of.
-/

namespace DocBinder.Docs

/-- Paragraphs are read as long as a character or an image comes. -/
inductive ReadsContent : Buffer → List Buffer → Buffer → Prop where
  | stop {unit : BodyUnit} {rest : Buffer} (isMarker : unit.isInline = false) :
      ReadsContent (unit :: rest) [] (unit :: rest)
  | paragraph {unit : BodyUnit} {rest left : Buffer} {paragraphs : List Buffer}
      (isInline : unit.isInline = true)
      (further : ReadsContent ((unit :: rest).drop (leadingParagraph (unit :: rest)).length)
        paragraphs left) :
      ReadsContent (unit :: rest) (leadingParagraph (unit :: rest) :: paragraphs) left

/-- Cells are read as long as the marker of one comes. -/
inductive ReadsCells : Buffer → List (List Buffer) → Buffer → Prop where
  | stop {unit : BodyUnit} {rest : Buffer} (notCell : unit ≠ .cellStart) :
      ReadsCells (unit :: rest) [] (unit :: rest)
  | cell {rest behind left : Buffer} {content : List Buffer} {cells : List (List Buffer)}
      (within : ReadsContent rest content behind) (further : ReadsCells behind cells left) :
      ReadsCells (.cellStart :: rest) (content :: cells) left

/-- Rows are read until the end of the table comes; any other unit is passed as the marker of a row. -/
inductive ReadsRows : Buffer → List (List (List Buffer)) → Buffer → Prop where
  | stop {rest : Buffer} : ReadsRows (.tableEnd :: rest) [] rest
  | row {unit : BodyUnit} {rest behind left : Buffer} {cells : List (List Buffer)}
      {rows : List (List (List Buffer))} (notEnd : unit ≠ .tableEnd)
      (within : ReadsCells rest cells behind) (further : ReadsRows behind rows left) :
      ReadsRows (unit :: rest) (cells :: rows) left

/-- Parts are read until no unit is left. -/
inductive Reads : Buffer → List BodyPart → Prop where
  | stop : Reads [] []
  | table {rest behind : Buffer} {rows : List (List (List Buffer))} {parts : List BodyPart}
      (within : ReadsRows rest rows behind) (further : Reads behind parts) :
      Reads (.tableStart :: rest) (.table rows :: parts)
  | paragraph {unit : BodyUnit} {rest : Buffer} {parts : List BodyPart}
      (notTable : unit ≠ .tableStart)
      (further : Reads ((unit :: rest).drop (leadingParagraph (unit :: rest)).length) parts) :
      Reads (unit :: rest) (.paragraph (leadingParagraph (unit :: rest)) :: parts)

/-! ## A pass has one course -/

theorem ReadsContent.unique {units left other : Buffer} {paragraphs others : List Buffer}
    (reads : ReadsContent units paragraphs left) (again : ReadsContent units others other) :
    paragraphs = others ∧ left = other := by
  induction reads generalizing others with
  | stop isMarker =>
      cases again with
      | stop => exact ⟨rfl, rfl⟩
      | paragraph isInline => rw [isMarker] at isInline; cases isInline
  | paragraph isInline further step =>
      cases again with
      | stop isMarker => rw [isMarker] at isInline; cases isInline
      | paragraph _ behind =>
          rcases step behind with ⟨rfl, rfl⟩
          exact ⟨rfl, rfl⟩

theorem ReadsCells.unique {units left other : Buffer} {cells others : List (List Buffer)}
    (reads : ReadsCells units cells left) (again : ReadsCells units others other) :
    cells = others ∧ left = other := by
  induction reads generalizing others with
  | stop notCell =>
      cases again with
      | stop => exact ⟨rfl, rfl⟩
      | cell => exact absurd rfl notCell
  | cell within further step =>
      cases again with
      | stop notCell => exact absurd rfl notCell
      | cell withinToo furtherToo =>
          rcases within.unique withinToo with ⟨rfl, rfl⟩
          rcases step furtherToo with ⟨rfl, rfl⟩
          exact ⟨rfl, rfl⟩

theorem ReadsRows.unique {units left other : Buffer} {rows others : List (List (List Buffer))}
    (reads : ReadsRows units rows left) (again : ReadsRows units others other) :
    rows = others ∧ left = other := by
  induction reads generalizing others with
  | stop =>
      cases again with
      | stop => exact ⟨rfl, rfl⟩
      | row notEnd => exact absurd rfl notEnd
  | row notEnd within further step =>
      cases again with
      | stop => exact absurd rfl notEnd
      | row _ withinToo furtherToo =>
          rcases within.unique withinToo with ⟨rfl, rfl⟩
          rcases step furtherToo with ⟨rfl, rfl⟩
          exact ⟨rfl, rfl⟩

/-- Two passes over the same units read the same parts. -/
theorem Reads.unique {units : Buffer} {parts others : List BodyPart} (reads : Reads units parts)
    (again : Reads units others) : parts = others := by
  induction reads generalizing others with
  | stop =>
      cases again
      rfl
  | table within further step =>
      cases again with
      | table withinToo furtherToo =>
          rcases within.unique withinToo with ⟨rfl, rfl⟩
          rw [step furtherToo]
      | paragraph notTable => exact absurd rfl notTable
  | paragraph notTable further step =>
      cases again with
      | table => exact absurd rfl notTable
      | paragraph _ behind => rw [step behind]

/-- Where a marker comes that begins no table, the pass makes no step, and so it never ends. -/
theorem not_reads_of_marker {unit : BodyUnit} (notTable : unit ≠ .tableStart)
    (isMarker : unit.isInline = false) (rest : Buffer) (parts : List BodyPart) :
    ¬ Reads (unit :: rest) parts := by
  have empty : leadingParagraph (unit :: rest) = [] := by
    have notBreak : unit ≠ .lineFeed := by
      rintro rfl
      cases isMarker
    simp [leadingParagraph, notBreak, isMarker]
  intro reads
  generalize isUnits : unit :: rest = units at reads
  induction reads with
  | stop => cases isUnits
  | table =>
      cases isUnits
      exact notTable rfl
  | paragraph _ _ step =>
      cases isUnits
      exact step (by rw [empty]; rfl)

/-! ## Well-formed bodies -/

/-- A paragraph begins with a character or an image. -/
theorem IsParagraph.exists_cons {paragraph : Buffer} (isParagraph : IsParagraph paragraph) :
    ∃ unit rest, paragraph = unit :: rest ∧ unit.isInline = true := by
  cases paragraph with
  | nil =>
      rcases isParagraph with ⟨inside, empty, _⟩
      simp at empty
  | cons unit rest =>
      exact ⟨unit, rest, rfl, isInline_of_mem_paragraph isParagraph List.mem_cons_self⟩

theorem ReadsContent.of_isParagraph {paragraph rest left : Buffer} {paragraphs : List Buffer}
    (isParagraph : IsParagraph paragraph) (further : ReadsContent rest paragraphs left) :
    ReadsContent (paragraph ++ rest) (paragraph :: paragraphs) left := by
  have leading := leadingParagraph_append isParagraph rest
  rcases isParagraph.exists_cons with ⟨unit, units, rfl, isInline⟩
  rw [List.cons_append] at leading ⊢
  have reads := @ReadsContent.paragraph unit (units ++ rest) left paragraphs isInline
  rw [leading, ← List.cons_append, List.drop_left] at reads
  exact reads further

theorem Reads.of_isParagraph {paragraph rest : Buffer} {parts : List BodyPart}
    (isParagraph : IsParagraph paragraph) (further : Reads rest parts) :
    Reads (paragraph ++ rest) (.paragraph paragraph :: parts) := by
  have leading := leadingParagraph_append isParagraph rest
  rcases isParagraph.exists_cons with ⟨unit, units, rfl, isInline⟩
  have notTable : unit ≠ .tableStart := by
    rintro rfl
    cases isInline
  rw [List.cons_append] at leading ⊢
  have reads := @Reads.paragraph unit (units ++ rest) parts notTable
  rw [leading, ← List.cons_append, List.drop_left] at reads
  exact reads further

theorem readsContent_flatten {paragraphs : List Buffer} {marker : BodyUnit} (rest : Buffer)
    (areParagraphs : ∀ paragraph ∈ paragraphs, IsParagraph paragraph)
    (isMarker : marker.isInline = false) :
    ReadsContent (paragraphs.flatten ++ marker :: rest) paragraphs (marker :: rest) := by
  induction paragraphs with
  | nil => exact .stop isMarker
  | cons paragraph others step =>
      have further := step fun other mem => areParagraphs other (List.mem_cons_of_mem _ mem)
      rw [List.flatten_cons, List.append_assoc]
      exact further.of_isParagraph (areParagraphs paragraph List.mem_cons_self)

theorem readsCells_flatMap {cells : List (List Buffer)} {marker : BodyUnit} (rest : Buffer)
    (areCells : ∀ cell ∈ cells, IsCell cell) (isMarker : marker.isInline = false)
    (notCell : marker ≠ .cellStart) :
    ReadsCells (cells.flatMap cellUnits ++ marker :: rest) cells (marker :: rest) := by
  induction cells with
  | nil => exact .stop notCell
  | cons cell others step =>
      have further := step fun other mem => areCells other (List.mem_cons_of_mem _ mem)
      rw [List.flatMap_cons, List.append_assoc, cellUnits, List.cons_append]
      refine .cell ?_ further
      -- The content of a cell ends where the next cell begins, or else where the row ends.
      cases others with
      | nil => exact readsContent_flatten rest (areCells cell List.mem_cons_self).2 isMarker
      | cons next others =>
          exact readsContent_flatten _ (areCells cell List.mem_cons_self).2 (by rfl)

theorem readsRows_flatMap {rows : List (List (List Buffer))} (rest : Buffer)
    (areRows : ∀ row ∈ rows, ∀ cell ∈ row, IsCell cell) :
    ReadsRows (rows.flatMap rowUnits ++ .tableEnd :: rest) rows rest := by
  induction rows with
  | nil => exact .stop
  | cons row others step =>
      have further := step fun other mem => areRows other (List.mem_cons_of_mem _ mem)
      rw [List.flatMap_cons, List.append_assoc, rowUnits, List.cons_append]
      refine .row (by simp) ?_ further
      -- The cells of a row end where the next row begins, or else where the table ends.
      cases others with
      | nil =>
          exact readsCells_flatMap rest (areRows row List.mem_cons_self) (by rfl) (by simp)
      | cons next others =>
          exact readsCells_flatMap _ (areRows row List.mem_cons_self) (by rfl) (by simp)

theorem reads_flatMap {parts : List BodyPart} (wellFormed : ∀ part ∈ parts, part.WellFormed) :
    Reads (parts.flatMap BodyPart.units) parts := by
  induction parts with
  | nil => exact .stop
  | cons part others step =>
      have further := step fun other mem => wellFormed other (List.mem_cons_of_mem _ mem)
      have here := wellFormed part List.mem_cons_self
      rw [List.flatMap_cons]
      cases part with
      | paragraph paragraph => exact further.of_isParagraph here
      | table rows =>
          rw [BodyPart.units, List.cons_append, List.append_assoc]
          exact .table (readsRows_flatMap _ here) further

/-- The pass over a well-formed body ends, with the parts that its wire form is made of. -/
theorem Buffer.WellFormed.reads_bodyParts {buffer : Buffer} (wellFormed : buffer.WellFormed) :
    Reads buffer (bodyParts 0 buffer) := by
  rcases wellFormed.exists_parts with ⟨parts, areParts, rfl⟩
  rw [bodyParts_flatMap areParts]
  exact reads_flatMap areParts

end DocBinder.Docs
