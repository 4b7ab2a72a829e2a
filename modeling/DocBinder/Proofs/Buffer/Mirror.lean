import DocBinder.Proofs.Buffer.Marks

/-!
# A snapshot as the mirror of a body

What a snapshot has to show of a body is told here by the positions of the body alone: each character with
the index units of all that stands before it, each table in its turn, and each cell behind its own marker,
which is found by counting the markers of tables, rows and cells before it. For a well-formed body this is
what the snapshot shows. A split of the units at a marker is therefore turned into a split of the parts,
where markers stand only before what they begin.
-/

namespace DocBinder.Docs

/-! ## What there is to show -/

namespace Buffer

/-- The characters of a body that begins at `index`, each with its index, as far as `keep` holds of the
units before it. -/
def characters (index : Nat) (keep : Buffer → Bool) (body : Buffer) : List (Char × Nat) :=
  (List.range body.length).filterMap fun position =>
    if keep (body.take position) then
      (body[position]?.bind BodyUnit.char?).map fun character =>
        (character, index + Buffer.width (body.take position))
    else none

/-- Behind these units no table is open: as many have ended as have begun. -/
def closed (before : Buffer) : Bool :=
  before.count .tableStart == before.count .tableEnd

/-- The units before the marker of a cell, whose table, row and column are counted from zero by the markers
before it. -/
inductive CellMarker (body : Buffer) (table row column : Nat) : Buffer → Prop where
  | mk {front rows cells behind : Buffer}
      (split : body = front ++ .tableStart :: (rows ++ .rowStart :: (cells ++ .cellStart :: behind)))
      (sameTable : .tableEnd ∉ rows ++ cells) (sameRow : .rowStart ∉ cells)
      (isTable : front.count .tableStart = table) (isRow : rows.count .rowStart = row)
      (isColumn : cells.count .cellStart = column) :
      CellMarker body table row column (front ++ .tableStart :: (rows ++ .rowStart :: cells))

end Buffer

/-- The cell at a row and a column of one of the tables of a snapshot. -/
def Snapshot.cell? (snapshot : Snapshot) (table row column : Nat) : Option Cell :=
  (snapshot.tables[table]?.bind Element.rows?).bind fun rows => cellAt? rows row column

/-- A cell begins behind units, and its first paragraph right behind its marker. -/
structure Cell.Behind (cell : Cell) (before : Buffer) : Prop where
  start : cell.start = 1 + Buffer.width before
  firstParagraph : cell.firstParagraph? = some (1 + Buffer.width before + 1)

/-- A snapshot shows everything that a body holds, and where it stands. -/
structure Snapshot.Mirrors (snapshot : Snapshot) (body : Buffer) : Prop where
  text : (snapshot.flatten true).text = body.text
  all : (snapshot.flatten true).marks = body.characters 1 fun _ => true
  rising : (snapshot.flatten true).offsets.Pairwise (· < ·)
  outside : (snapshot.flatten false).marks = body.characters 1 Buffer.closed
  some : (snapshot.flatten false).marks.Sublist (snapshot.flatten true).marks
  endIndex : snapshot.endIndex = 1 + body.width
  tableCount : snapshot.tables.length = body.count .tableStart
  tables : ∀ {front rest : Buffer}, body = front ++ .tableStart :: rest →
    (snapshot.tables[front.count .tableStart]?).map Element.start = .some (1 + Buffer.width front)
  cells : ∀ {table row column before}, body.CellMarker table row column before →
    ∃ cell, snapshot.cell? table row column = .some cell ∧ cell.Behind before
  noOther : ∀ {table row column cell}, snapshot.cell? table row column = .some cell →
    ∃ before, body.CellMarker table row column before ∧ cell.Behind before

/-! ## Characters -/

namespace Buffer

theorem characters_cons (index : Nat) (keep : Buffer → Bool) (unit : BodyUnit) (rest : Buffer) :
    characters index keep (unit :: rest) =
      (if keep [] then unit.char?.map fun character => (character, index) else none).toList ++
        characters (index + unit.width) (fun before => keep (unit :: before)) rest := by
  rw [characters, List.length_cons, List.range_succ_eq_map, List.filterMap_cons, List.filterMap_map]
  have behind : ((fun position => if keep ((unit :: rest).take position) then
        ((unit :: rest)[position]?.bind BodyUnit.char?).map fun character =>
          (character, index + Buffer.width ((unit :: rest).take position))
      else none) ∘ Nat.succ) = fun position =>
      if keep (unit :: rest.take position) then
        (rest[position]?.bind BodyUnit.char?).map fun character =>
          (character, index + unit.width + Buffer.width (rest.take position))
      else none := by
    funext position
    rw [Function.comp_apply, Nat.succ_eq_add_one, List.take_succ_cons, List.getElem?_cons_succ,
      width_cons, Nat.add_assoc]
  rw [behind, characters]
  by_cases kept : keep []
  · cases isChar : unit.char? <;> simp [kept, isChar]
  · simp [kept]

end Buffer

theorem unitMarks_eq_characters (index : Nat) (body : Buffer) :
    unitMarks index body = body.characters index fun _ => true := by
  induction body generalizing index with
  | nil => rfl
  | cons unit rest step =>
      rw [Buffer.characters_cons, ← step]
      cases unit <;> rfl

/-- Whether a table is open in a mode. -/
def Mode.inside : Mode → Bool
  | .body _ => false
  | _ => true

theorem Mode.inside_of_next? {mode next : Mode} {unit : BodyUnit}
    (here : mode.next? unit = some next) :
    (unit = .tableStart → mode.inside = false ∧ next.inside = true) ∧
    (unit = .tableEnd → mode.inside = true ∧ next.inside = false) ∧
    (unit ≠ .tableStart → unit ≠ .tableEnd → next.inside = mode.inside) := by
  rcases mode with isOpen | _ | _ | _ | isOpen <;> cases unit <;> (try cases isOpen) <;>
    simp_all [Mode.next?] <;> subst next <;> simp [Mode.inside]

/-- While a body is read, a character stands outside tables just when no table is open. -/
theorem topMarks_eq_characters {mode final : Mode} (index : Nat) {body : Buffer}
    (reads : mode.after? body = some final) :
    topMarks index mode.inside body = body.characters index fun before =>
      before.count .tableStart + mode.inside.toNat == before.count .tableEnd := by
  induction body generalizing mode index with
  | nil => rfl
  | cons unit rest step =>
      rw [Mode.after?, Option.bind_eq_some_iff] at reads
      rcases reads with ⟨next, here, further⟩
      have behind := fun index => step index further
      rcases Mode.inside_of_next? here with ⟨begins, ends, stays⟩
      rw [Buffer.characters_cons]
      cases unit with
      | tableStart =>
          rcases begins rfl with ⟨outside, inside⟩
          simp only [topMarks, outside, inside] at behind ⊢
          rw [behind]
          simp [BodyUnit.char?, BodyUnit.width]
      | tableEnd =>
          rcases ends rfl with ⟨inside, outside⟩
          simp only [topMarks, outside, inside] at behind ⊢
          rw [behind]
          simp [BodyUnit.width]
      | char character =>
          rw [stays (by simp) (by simp)] at behind
          cases isInside : mode.inside <;> rw [isInside] at behind <;>
            simp [topMarks, behind, BodyUnit.char?, BodyUnit.width]
      | _ =>
          rw [stays (by simp) (by simp)] at behind
          simp [topMarks, behind, BodyUnit.char?, BodyUnit.width]

/-! ## Tables -/

theorem length_tableMarks (index : Nat) (body : Buffer) :
    (tableMarks index body).length = body.count .tableStart := by
  induction body generalizing index with
  | nil => rfl
  | cons unit rest step => cases unit <;> simp [tableMarks, step]

/-- A marker of a table begins the table that has its turn. -/
theorem getElem?_tableMarks (index : Nat) (front rest : Buffer) :
    (tableMarks index (front ++ .tableStart :: rest))[front.count .tableStart]? =
      some (index + front.width, rest.takeWhile (· != .tableEnd)) := by
  induction front generalizing index with
  | nil => rfl
  | cons unit others step =>
      cases unit <;> simp [tableMarks, step, BodyUnit.width, Nat.add_assoc]

/-- A marker that there is has its turn. -/
theorem exists_of_lt_count {marker : BodyUnit} {number : Nat} {body : Buffer}
    (below : number < body.count marker) :
    ∃ front rest, body = front ++ marker :: rest ∧ front.count marker = number := by
  induction body generalizing number with
  | nil => simp at below
  | cons unit rest step =>
      by_cases isMarker : unit = marker
      · subst unit
        cases number with
        | zero => exact ⟨[], rest, rfl, rfl⟩
        | succ number =>
            rw [List.count_cons_self, Nat.add_lt_add_iff_right] at below
            rcases step below with ⟨front, behind, rfl, counted⟩
            exact ⟨marker :: front, behind, rfl, by rw [List.count_cons_self, counted]⟩
      · rw [List.count_cons_of_ne isMarker] at below
        rcases step below with ⟨front, behind, rfl, counted⟩
        exact ⟨unit :: front, behind, rfl, by rw [List.count_cons_of_ne isMarker, counted]⟩

theorem exists_of_getElem? {α : Type} {items : List α} {number : Nat} {item : α}
    (found : items[number]? = some item) :
    ∃ early late, items = early ++ item :: late ∧ number = early.length := by
  rcases List.getElem?_eq_some_iff.mp found with ⟨below, rfl⟩
  refine ⟨items.take number, items.drop (number + 1), ?_, ?_⟩
  · rw [← List.drop_eq_getElem_cons below, List.take_append_drop]
  · rw [List.length_take, Nat.min_eq_left (Nat.le_of_lt below)]

/-- Behind the marker of a table come its rows. -/
theorem Buffer.WellFormed.exists_rows {front rest : Buffer}
    (wellFormed : Buffer.WellFormed (front ++ .tableStart :: rest)) :
    ∃ (rows : List (List (List Buffer))) (following : Buffer),
      (∀ row ∈ rows, ∀ cell ∈ row, IsCell cell) ∧
      rest = rows.flatMap rowUnits ++ .tableEnd :: following := by
  rcases Mode.exists_between wellFormed.reads with ⟨middle, _, reads⟩
  rw [Mode.after?, Option.bind_eq_some_iff] at reads
  rcases reads with ⟨next, here, further⟩
  have isTable : next = .table := by
    rcases middle with isOpen | _ | _ | _ | isOpen <;> (try cases isOpen) <;>
      simp_all [Mode.next?]
  subst isTable
  rcases Mode.leaves_of_after? further with ⟨rows, following, areRows, _, rfl⟩
  exact ⟨rows, following, areRows, rfl⟩

theorem takeWhile_rowUnits {rows : List (List (List Buffer))}
    (areRows : ∀ row ∈ rows, ∀ cell ∈ row, IsCell cell) (following : Buffer) :
    (rows.flatMap rowUnits ++ .tableEnd :: following).takeWhile (· != .tableEnd) =
      rows.flatMap rowUnits := by
  rw [List.takeWhile_append_of_pos]
  · simp
  · intro unit mem
    exact bne_iff_ne.mpr fun same => not_mem_tableEnd areRows (same ▸ mem)

/-! ## Rows and cells -/

section Runs

variable {α : Type} {marker : BodyUnit} {units : α → Buffer} {before rest : Buffer}

/-- Of runs behind a marker, an occurrence of the marker begins one. -/
theorem exists_of_flatMap_eq {runs : List α} (absent : ∀ run ∈ runs, marker ∉ units run)
    (split : runs.flatMap (fun run => marker :: units run) = before ++ marker :: rest) :
    ∃ early run late, runs = early ++ run :: late ∧
      before = early.flatMap (fun run => marker :: units run) ∧
      rest = units run ++ late.flatMap fun run => marker :: units run := by
  induction runs generalizing before with
  | nil => simp at split
  | cons run others step =>
      have notHere := absent run List.mem_cons_self
      have further := fun {before : Buffer} => @step before fun other mem =>
        absent other (List.mem_cons_of_mem _ mem)
      rw [List.flatMap_cons, List.cons_append] at split
      cases before with
      | nil =>
          cases split
          exact ⟨[], run, others, rfl, rfl, rfl⟩
      | cons unit before =>
          simp only [List.cons_append, List.cons.injEq] at split
          rcases split with ⟨rfl, split⟩
          have passed : ∃ between, before = units run ++ between ∧
              others.flatMap (fun run => marker :: units run) = between ++ marker :: rest := by
            rcases List.append_eq_append_iff.mp split with ⟨between, same, left⟩ | ⟨between, same, left⟩
            · exact ⟨between, same, left⟩
            · cases between with
              | nil => exact ⟨[], by simpa using same.symm, left.symm⟩
              | cons unit between =>
                  cases left
                  exact absurd (same ▸ by simp) notHere
          rcases passed with ⟨between, rfl, left⟩
          rcases further left with ⟨early, next, late, rfl, rfl, rfl⟩
          exact ⟨run :: early, next, late, rfl, rfl, rfl⟩

/-- What stands in the first run before a unit of another kind, as long as the marker does not come. -/
theorem exists_of_run_append {run : Buffer} {runs : List α} {unit : BodyUnit}
    (notMarker : unit ≠ marker) (absent : marker ∉ before)
    (split : run ++ runs.flatMap (fun run => marker :: units run) = before ++ unit :: rest) :
    ∃ behind, run = before ++ unit :: behind := by
  have begins : ∀ (others : Buffer), runs.flatMap (fun run => marker :: units run) =
      unit :: others → False := by
    intro others same
    cases runs with
    | nil => cases same
    | cons run runs =>
        cases same
        exact notMarker rfl
  rcases List.append_eq_append_iff.mp split with ⟨between, same, left⟩ | ⟨between, same, left⟩
  · cases between with
    | nil => exact absurd left (begins _)
    | cons first between =>
        cases runs with
        | nil => cases left
        | cons next runs =>
            rw [List.flatMap_cons, List.cons_append, List.cons_append, List.cons.injEq] at left
            rcases left with ⟨rfl, _⟩
            exact absurd (same ▸ by simp) absent
  · cases between with
    | nil => exact absurd left.symm (begins _)
    | cons first between =>
        cases left
        exact ⟨between, same⟩

end Runs

theorem count_flatMap {α : Type} {marker : BodyUnit} {units : α → Buffer} {runs : List α}
    (absent : ∀ run ∈ runs, marker ∉ units run) :
    (runs.flatMap fun run => marker :: units run).count marker = runs.length := by
  induction runs with
  | nil => rfl
  | cons run others step =>
      have further := step fun other mem => absent other (List.mem_cons_of_mem _ mem)
      rw [List.flatMap_cons, List.count_append, List.count_cons_self,
        List.count_eq_zero_of_not_mem (absent run List.mem_cons_self), further, List.length_cons]
      omega

theorem rowStart_not_mem_cells {cells : List (List Buffer)} (areCells : ∀ cell ∈ cells, IsCell cell) :
    BodyUnit.rowStart ∉ cells.flatMap cellUnits := by
  intro mem
  rcases List.mem_flatMap.mp mem with ⟨cell, cellMem, unitMem⟩
  rcases List.mem_cons.mp unitMem with same | unitMem
  · cases same
  · exact not_mem_cell_flatten (areCells cell cellMem) rfl unitMem

section Cell

variable {rows : List (List (List Buffer))} {row column : Nat}

/-- A cell of the table that begins behind `front` is shown behind its marker. -/
theorem exists_cellAt? (front : Buffer) {cells : List (List Buffer)} {content : List Buffer}
    (inRows : rows[row]? = some cells) (inCells : cells[column]? = some content)
    (isCell : IsCell content) :
    ∃ cell, cellAt? (rowList (1 + front.width + 1) rows) row column = some cell ∧
      cell.Behind (front ++ .tableStart ::
        ((rows.take row).flatMap rowUnits ++ .rowStart :: (cells.take column).flatMap cellUnits)) := by
  have indexed : 1 + Buffer.width (front ++ .tableStart ::
        ((rows.take row).flatMap rowUnits ++ .rowStart :: (cells.take column).flatMap cellUnits)) =
      1 + front.width + 1 + rowsWidth (rows.take row) + 1 + cellsWidth (cells.take column) := by
    simp only [Buffer.width_append, Buffer.width_cons, BodyUnit.width, rowsWidth_eq, cellsWidth_eq]
    omega
  refine ⟨_, by rw [cellAt?, getElem?_rowList, inRows, Option.map_some, Option.bind_some,
    getElem?_cellList, inCells, Option.map_some], ?_, ?_⟩
  · rw [indexed]
    rfl
  · rw [indexed]
    cases content with
    | nil => exact absurd rfl isCell.1
    | cons paragraph rest => rfl

theorem exists_of_cellAt?_rowList {index : Nat} {cell : Cell}
    (found : cellAt? (rowList index rows) row column = some cell) :
    ∃ cells content, rows[row]? = some cells ∧ cells[column]? = some content := by
  rw [cellAt?, getElem?_rowList, Option.bind_eq_some_iff] at found
  rcases found with ⟨_, inRows, found⟩
  rcases Option.map_eq_some_iff.mp inRows with ⟨cells, isRow, rfl⟩
  rw [getElem?_cellList] at found
  rcases Option.map_eq_some_iff.mp found with ⟨content, isCell, _⟩
  exact ⟨cells, content, isRow, isCell⟩

end Cell

namespace Buffer

section WellFormed

variable {body : Buffer} (documentId title : String)

theorem getElem?_tables_view {front following : Buffer} {rows : List (List (List Buffer))}
    (areRows : ∀ row ∈ rows, ∀ cell ∈ row, IsCell cell)
    (split : body = front ++ .tableStart :: (rows.flatMap rowUnits ++ .tableEnd :: following))
    (wellFormed : body.WellFormed) :
    (body.view documentId title).tables[front.count .tableStart]? =
      some ((BodyPart.table rows).element (1 + front.width)) := by
  rw [tables_view wellFormed, List.getElem?_map, split, getElem?_tableMarks, takeWhile_rowUnits areRows,
    Option.map_some, tableElement, tableRows_flatMap areRows]

theorem cell?_view {front following : Buffer} {rows : List (List (List Buffer))}
    (areRows : ∀ row ∈ rows, ∀ cell ∈ row, IsCell cell)
    (split : body = front ++ .tableStart :: (rows.flatMap rowUnits ++ .tableEnd :: following))
    (wellFormed : body.WellFormed) (row column : Nat) :
    (body.view documentId title).cell? (front.count .tableStart) row column =
      cellAt? (rowList (1 + front.width + 1) rows) row column := by
  rw [Snapshot.cell?, getElem?_tables_view documentId title areRows split wellFormed]
  rfl

variable (wellFormed : body.WellFormed)

include wellFormed

/-- Behind every marker of a cell the snapshot shows the cell. -/
theorem exists_cell_view {table row column : Nat} {before : Buffer}
    (marker : body.CellMarker table row column before) :
    ∃ cell, (body.view documentId title).cell? table row column = some cell ∧ cell.Behind before := by
  cases marker with
  | @mk front rows cells behind split sameTable sameRow isTable isRow isColumn =>
      subst isTable isRow isColumn
      rcases (split ▸ wellFormed).exists_rows with ⟨parsed, following, areRows, same⟩
      have inTable : parsed.flatMap (fun row => .rowStart :: row.flatMap cellUnits) =
          rows ++ .rowStart :: (cells ++ .cellStart :: behind.takeWhile (· != .tableEnd)) := by
        have passed : ∀ unit ∈ rows ++ .rowStart :: (cells ++ [.cellStart]),
            (unit != .tableEnd) = true := by
          intro unit mem
          refine bne_iff_ne.mpr ?_
          rintro rfl
          simp_all
        change parsed.flatMap rowUnits = _
        rw [← takeWhile_rowUnits areRows following, ← same,
          show rows ++ .rowStart :: (cells ++ .cellStart :: behind) =
            (rows ++ .rowStart :: (cells ++ [.cellStart])) ++ behind by simp,
          List.takeWhile_append_of_pos passed]
        simp
      rcases exists_of_flatMap_eq (fun row mem => rowStart_not_mem_cells (areRows row mem))
        inTable with
        ⟨early, row, late, rfl, rfl, inRow⟩
      have areCells := areRows row (by simp)
      rcases exists_of_run_append (by simp) sameRow inRow.symm with ⟨inner, rowIs⟩
      have inCells : row.flatMap (fun cell => .cellStart :: cell.flatten) =
          cells ++ .cellStart :: inner := rowIs
      rcases exists_of_flatMap_eq (fun cell mem => not_mem_cell_flatten (areCells cell mem) rfl)
        inCells with
        ⟨firsts, cell, others, rfl, rfl, _⟩
      have rowCount : (early.flatMap rowUnits).count .rowStart = early.length :=
        count_flatMap fun row mem => rowStart_not_mem_cells (areRows row (by simp [mem]))
      have cellCount : (firsts.flatMap cellUnits).count .cellStart = firsts.length :=
        count_flatMap fun cell mem => not_mem_cell_flatten (areCells cell (by simp [mem])) rfl
      rw [cell?_view documentId title areRows (by rw [split, same]) wellFormed]
      change ∃ cell, cellAt? _ ((early.flatMap rowUnits).count .rowStart)
        ((firsts.flatMap cellUnits).count .cellStart) = _ ∧ _
      rw [rowCount, cellCount]
      have atRow : (early ++ (firsts ++ cell :: others) :: late)[early.length]? =
          some (firsts ++ cell :: others) := by simp
      have atColumn : (firsts ++ cell :: others)[firsts.length]? = some cell := by simp
      have shown := exists_cellAt? front atRow atColumn (areCells cell (by simp))
      rwa [List.take_left, List.take_left] at shown

/-- Every cell that the snapshot shows has its marker in the body. -/
theorem exists_marker_view {table row column : Nat} {cell : Cell}
    (shown : (body.view documentId title).cell? table row column = some cell) :
    ∃ before, body.CellMarker table row column before ∧ cell.Behind before := by
  have below : table < body.count .tableStart := by
    rw [Snapshot.cell?, Option.bind_eq_some_iff] at shown
    rcases shown with ⟨_, isTable, _⟩
    rcases Option.bind_eq_some_iff.mp isTable with ⟨_, isTable, _⟩
    have below := (List.getElem?_eq_some_iff.mp isTable).1
    rwa [tables_view wellFormed, List.length_map, length_tableMarks] at below
  rcases exists_of_lt_count below with ⟨front, rest, split, rfl⟩
  rcases (split ▸ wellFormed).exists_rows with ⟨rows, following, areRows, rfl⟩
  rw [cell?_view documentId title areRows split wellFormed] at shown
  rcases exists_of_cellAt?_rowList shown with ⟨cells, content, inRows, inCells⟩
  have areCells := areRows cells (List.mem_of_getElem? inRows)
  rcases exists_cellAt? front inRows inCells
    (areCells content (List.mem_of_getElem? inCells)) with ⟨found, isFound, behind⟩
  rw [isFound, Option.some.injEq] at shown
  subst shown
  rcases exists_of_getElem? inRows with ⟨early, late, rfl, rfl⟩
  rcases exists_of_getElem? inCells with ⟨firsts, others, rfl, rfl⟩
  rw [List.take_left, List.take_left] at behind
  have whole : body = front ++ .tableStart :: (early.flatMap rowUnits ++
      .rowStart :: (firsts.flatMap cellUnits ++ .cellStart :: (content.flatten ++
        others.flatMap cellUnits ++ late.flatMap rowUnits ++ .tableEnd :: following))) := by
    simp [split, rowUnits, cellUnits]
  refine ⟨_, .mk whole ?_ ?_ rfl ?_ ?_, behind⟩
  · intro mem
    refine not_mem_tableEnd areRows ?_
    rcases List.mem_append.mp mem with mem | mem <;> simp [rowUnits, mem]
  · exact rowStart_not_mem_cells fun cell mem => areCells cell (by simp [mem])
  · exact count_flatMap fun row mem => rowStart_not_mem_cells (areRows row (by simp [mem]))
  · exact count_flatMap fun cell mem => not_mem_cell_flatten (areCells cell (by simp [mem])) rfl

/-- What is seen of a well-formed body mirrors it. -/
theorem WellFormed.mirrors : (body.view documentId title).Mirrors body where
  text := by rw [FlatText.text, flatten_view_all wellFormed, map_fst_unitMarks]
  all := by rw [flatten_view_all wellFormed, unitMarks_eq_characters]
  rising := by
    rw [FlatText.offsets, flatten_view_all wellFormed]
    exact List.pairwise_map.mpr (pairwise_unitMarks 1 body)
  outside := by
    rw [flatten_view_top wellFormed]
    exact topMarks_eq_characters 1 wellFormed.reads
  some := by
    rw [flatten_view_top wellFormed, flatten_view_all wellFormed]
    exact sublist_topMarks 1 false body
  endIndex := by rw [endIndex_view wellFormed, endIndex, Nat.add_comm]
  tableCount := by rw [tables_view wellFormed, List.length_map, length_tableMarks]
  tables := by
    intro front rest split
    rcases (split ▸ wellFormed).exists_rows with ⟨rows, following, areRows, rfl⟩
    rw [getElem?_tables_view documentId title areRows split wellFormed]
    rfl
  cells := exists_cell_view documentId title wellFormed
  noOther := exists_marker_view documentId title wellFormed

end WellFormed

end Buffer

end DocBinder.Docs
