import DocBinder.Compile
import DocBinder.Proofs.Markdown.Outside
import DocBinder.Proofs.Replacement.Fences

/-!
# Tokens that come through

The tokens that stand outside of closed fences are what later phases look for, so all of them have to
come through, each in one piece. Reading a block takes off blanks, marks, bars and inline markers, none
of which a token can share; and compiling it puts marks and line feeds around what is left. Only the
cells of a row that lie to the right of the header are dropped.
-/

namespace DocBinder

open Text Markdown

/-! ## Where tokens stand before and after -/

/-- The texts of a table's cells, row by row. -/
def Grid.cellTexts (grid : Grid) : List Text :=
  (List.range grid.rowCount).flatMap fun row => (List.range grid.columnCount).map (grid.cellText row)

/-- What a numbered request brings into a document: the text that it inserts, or the cells of the tables
that are specified for it. -/
def Compiled.textsOf (tables : List TableSpec) (request : Docs.Request) (number : Nat) : List Text :=
  match request with
  | .insertText text _ => [text]
  | .insertTable .. => (tables.filter (·.request == number)).flatMap (·.grid.cellTexts)
  | _ => []

/-- What compiled blocks bring into a document, request by request. -/
def Compiled.texts (compiled : Compiled) : List Text :=
  compiled.requests.zipIdx.flatMap fun entry => textsOf compiled.tables entry.1 entry.2

namespace Markdown

/-- A row of a table without the cells to the right of a number of columns. -/
def rowTexts (columns : Nat) (line : Text) : List Text :=
  let cells := splitRow (Text.strip line)
  if cells.length ≤ columns then [line] else cells.take columns

/-- The line that a stretch outside of closed fences is. -/
def Stretch.outside : Stretch → List Text
  | .line _ text => [text]
  | .fence .. => []

/-- The lines of a document outside its closed fences. -/
def outsideLines (markdown : Text) : List Text :=
  (stretches 1 0 (documentLines markdown)).flatMap Stretch.outside

/-- The lines of a block that is no closed fence. -/
def PlacedBlock.outside (place : PlacedBlock) : List Text :=
  if place.block.fence?.isSome then [] else place.lines

/-- The lines of a block that is no closed fence; the rows of a table end where its header does. -/
def PlacedBlock.kept (place : PlacedBlock) : List Text :=
  match place.block with
  | .table _ grid => place.outside.flatMap (rowTexts grid.columnCount)
  | _ => place.outside

end Markdown

/-- What a block alone brings into a document. -/
def Block.texts (block : Block) : List Text :=
  match block.contribution? 0 with
  | some contribution => Compiled.textsOf contribution.table.toList contribution.request 0
  | none => []

theorem texts_table (source : Text) (grid : Grid) : (Block.table source grid).texts = grid.cellTexts := by
  simp [Block.texts, Block.contribution?, Compiled.textsOf]

/-! ## Compiling -/

section Contribution

variable {block : Block} {number : Nat} {contribution : Contribution}

/-- A block specifies its table for its own request. -/
theorem request_of_contribution? (contributes : block.contribution? number = some contribution)
    {spec : TableSpec} (own : spec ∈ contribution.table.toList) : spec.request = number := by
  cases block with
  | table =>
      cases contributes
      cases Option.mem_toList.mp own
      rfl
  | diagram => cases contributes
  | _ =>
      cases contributes
      cases own

theorem textsOf_contribution? (contributes : block.contribution? number = some contribution) :
    Compiled.textsOf contribution.table.toList contribution.request number = block.texts := by
  cases block with
  | table =>
      cases contributes
      simp [Block.texts, Block.contribution?, Compiled.textsOf]
  | diagram => cases contributes
  | _ =>
      cases contributes
      rfl

theorem texts_of_contribution?_none (bare : block.contribution? number = none) : block.texts = [] := by
  cases block with
  | diagram => rfl
  | _ => cases bare

end Contribution

theorem le_request_tables (number offset : Nat) (blocks : List Block) :
    ∀ spec ∈ (compileFrom number offset blocks).tables, number ≤ spec.request := by
  induction blocks generalizing number offset with
  | nil => exact fun _ mem => absurd mem List.not_mem_nil
  | cons block rest step =>
      intro spec mem
      cases contributes : block.contribution? number with
      | none =>
          simp only [compileFrom, contributes] at mem
          exact step number offset spec mem
      | some contribution =>
          simp only [compileFrom, contributes, List.mem_append] at mem
          rcases mem with own | mem
          · exact Nat.le_of_eq (request_of_contribution? contributes own).symm
          · exact Nat.le_of_succ_le (step _ _ spec mem)

theorem textsOf_append {tables others : List TableSpec} {number : Nat}
    (absent : ∀ spec ∈ others, spec.request ≠ number) (request : Docs.Request) :
    Compiled.textsOf (tables ++ others) request number = Compiled.textsOf tables request number ∧
      Compiled.textsOf (others ++ tables) request number =
        Compiled.textsOf tables request number := by
  have none : others.filter (·.request == number) = [] := by
    rw [List.filter_eq_nil_iff]
    intro spec mem
    simpa using absent spec mem
  cases request <;> simp [Compiled.textsOf, none]

/-- Each block brings in its own texts, whatever the number of its request. -/
theorem texts_compileFrom (number offset : Nat) (blocks : List Block) :
    ((compileFrom number offset blocks).requests.zipIdx number).flatMap
        (fun entry => Compiled.textsOf (compileFrom number offset blocks).tables entry.1 entry.2) =
      blocks.flatMap Block.texts := by
  induction blocks generalizing number offset with
  | nil => rfl
  | cons block rest step =>
      cases contributes : block.contribution? number with
      | none =>
          simp only [compileFrom, contributes, List.flatMap_cons, texts_of_contribution?_none contributes,
            step, List.nil_append]
      | some contribution =>
          simp only [compileFrom, contributes, List.zipIdx_cons, List.flatMap_cons]
          congr 1
          · rw [(textsOf_append _ _).1, textsOf_contribution? contributes]
            intro spec mem
            have behind := le_request_tables _ _ _ spec mem
            omega
          · rw [← step (number + 1)]
            apply List.flatMap_congr
            intro entry mem
            apply (textsOf_append _ _).2
            intro spec own
            rw [request_of_contribution? contributes own]
            exact Nat.ne_of_lt (List.mem_zipIdx mem).1

theorem texts_compile (blocks : List Block) : (compile blocks).texts = blocks.flatMap Block.texts :=
  texts_compileFrom 0 0 blocks

/-! ## Reading -/

namespace Markdown

variable {line : Text} {tokens : List Text}

theorem spread_paragraph (bears : Bears line tokens) :
    Spread (paragraph (Text.strip line)).texts tokens :=
  .singleton ((bears_inlineSpans bears.of_strip).before ['\n'])

theorem spread_heading (bears : Bears line tokens) :
    Spread (heading (Text.strip line)).texts tokens := by
  have whole := List.prefix_iff_eq_append.mp
    (List.takeWhile_prefix (· == '#') (l := Text.strip line))
  have stripped := bears.of_strip
  rw [← whole] at stripped
  have unopened : '[' ∉ (Text.strip line).takeWhile (· == '#') := by
    intro mem
    have isSign := List.mem_takeWhile_imp mem
    revert isSign
    decide
  exact .singleton ((stripped.of_behind unopened).of_strip.before ['\n', '\n'])

/-! ### Tables -/

/-- A token in a row stands in one of its cells. -/
theorem spread_splitRow (bears : Bears line tokens) : Spread (splitRow line) tokens := by
  have pieces : Spread ((Text.splitOn '|' line).map Text.strip) tokens := by
    rw [← Text.join_splitOn '|' line] at bears
    have spread := Spread.of_join (splitOn_ne_nil '|' line) bears
    rw [← List.map_id (Text.splitOn '|' line)] at spread
    exact spread.map fun _ _ _ own => own.of_strip
  rcases splitRow_cases line with ⟨cells, whole, kept⟩
  have unbarred : Spread cells tokens := by
    rcases whole with whole | whole
    · rwa [whole] at pieces
    · rw [whole] at pieces
      exact pieces.of_nil_cons
  rcases kept with same | ⟨trails, same⟩
  · rwa [same]
  · rw [same]
    exact unbarred.dropLast trails

theorem spread_cells {columns : Nat} (spread : Spread (rowTexts columns line) tokens) :
    Spread ((splitRow (Text.strip line)).take columns) tokens := by
  unfold rowTexts at spread
  dsimp only at spread
  split at spread
  · rename_i fits
    rw [List.take_of_length_le fits]
    exact spread_splitRow spread.bears.of_strip
  · exact spread

theorem not_mem_of_isSeparatorCell {cell : Text} (separates : isSeparatorCell cell = true) :
    '[' ∉ cell := by
  have hyphens {inner : Text} (ends : inner.drop (inner.takeWhile (· == '-')).length = [] ∨
      inner.drop (inner.takeWhile (· == '-')).length = [':']) : '[' ∉ inner := by
    have whole := List.prefix_iff_eq_append.mp (List.takeWhile_prefix (· == '-') (l := inner))
    intro mem
    rw [← whole] at mem
    rcases List.mem_append.mp mem with mem | mem
    · have isHyphen := List.mem_takeWhile_imp mem
      revert isHyphen
      decide
    · rcases ends with ends | ends
      · rw [ends] at mem
        cases mem
      · rw [ends] at mem
        revert mem
        decide
  simp only [isSeparatorCell, Bool.and_eq_true, Bool.or_eq_true, beq_iff_eq] at separates
  have ends := separates.2
  split at ends
  · rw [List.mem_cons, not_or]
    exact ⟨by decide, hyphens ends⟩
  · exact hyphens ends

/-- The texts of a row, up to a number of columns. -/
theorem map_range_row {row : List (Text × List Span)} {columns : Nat} (short : row.length ≤ columns) :
    ((List.range columns).map fun column => (row[column]?.map (·.1)).getD []) =
      row.map (·.1) ++ List.replicate (columns - row.length) [] := by
  apply List.ext_getElem
  · simp only [List.length_map, List.length_range, List.length_append, List.length_replicate]
    omega
  · intro column _ _
    by_cases within : column < row.length
    · simp [within]
    · simp [List.getElem_append, within]

/-- The cells of a grid are those of its rows, which are filled up to the width of the header. -/
theorem cellTexts_gridOf {header : List (Text × List Span)} {rows : List (List (Text × List Span))}
    (short : ∀ row ∈ rows, row.length ≤ header.length) :
    (gridOf (header :: rows)).cellTexts = (header :: rows).flatMap fun row =>
      row.map (·.1) ++ List.replicate (header.length - row.length) [] := by
  have size : (gridOf (header :: rows)).rowCount = (header :: rows).length := by
    simp [gridOf, Grid.rowCount]
  have width : (gridOf (header :: rows)).columnCount = header.length := by
    simp [gridOf, Grid.columnCount]
  have all (styled : List (List (Text × List Span))) :
      (List.range styled.length).map (fun row => styled[row]?) = styled.map some :=
    List.ext_getElem (by simp) (by simp)
  have byRow : (gridOf (header :: rows)).cellTexts =
      ((List.range (header :: rows).length).map fun row => (header :: rows)[row]?).flatMap
        fun row => (List.range header.length).map fun column =>
          ((row.bind fun cells => cells[column]?).map (·.1)).getD [] := by
    have cells (row : Nat) : (gridOf (header :: rows)).cellText row = fun column =>
        (((header :: rows)[row]?.bind fun cells => cells[column]?).map (·.1)).getD [] :=
      funext (cellText_gridOf (header :: rows) row)
    rw [Grid.cellTexts, size, width, List.flatMap_map]
    simp only [cells]
  rw [byRow, all, List.flatMap_map]
  apply List.flatMap_congr
  intro row mem
  apply map_range_row
  rcases List.mem_cons.mp mem with rfl | mem
  · exact Nat.le_refl _
  · exact short row mem

/-- The cells of a table are read from the cells of its rows; the row below the header bears nothing. -/
theorem spread_readGrid {number : Nat} {headers body : List Text} {separator : Text}
    (separates : (splitRow separator).all isSeparatorCell = true)
    (spread : Spread (headers ++ ((splitRow separator).take headers.length
      ++ body.flatMap fun row => (splitRow row).take headers.length)) tokens) :
    Spread (readGrid number headers body).1.cellTexts tokens := by
  let styled (cells : List Text) : List (Text × List Span) := cells.map inlineSpans
  have isGrid : (readGrid number headers body).1 =
      gridOf (styled headers :: body.map fun row => styled ((splitRow row).take headers.length)) := by
    simp [readGrid, gridOf, styled, Function.comp_def]
  have reads {cells own : List Text} (spread : Spread cells own) :
      Spread ((styled cells).map (·.1) ++ List.replicate (headers.length - cells.length) []) own := by
    rw [← List.append_nil own]
    apply Spread.append _ (.none _)
    rw [← List.map_id cells] at spread
    rw [List.map_map]
    exact spread.map fun _ _ _ own => bears_inlineSpans own
  rcases spread.exists_append with ⟨first, others, rfl, headerSpread, spread⟩
  rcases spread.exists_append with ⟨none, bodyTokens, rfl, separatorSpread, bodySpread⟩
  have isNone : none = [] := by
    apply separatorSpread.eq_nil_of_bare
    intro cell mem own bears
    have isSeparator := List.all_eq_true.mp separates cell (List.mem_of_mem_take mem)
    exact bears.eq_nil_of_unopened (not_mem_of_isSeparatorCell isSeparator)
  have width : (styled headers).length = headers.length := List.length_map _
  rw [isGrid, cellTexts_gridOf, List.flatMap_cons, isNone, List.nil_append, List.flatMap_map, width]
  · apply Spread.append
    · exact reads headerSpread
    · apply bodySpread.flatMap
      intro row _ own ownSpread
      rw [List.length_map]
      exact reads ownSpread
  · intro row mem
    rcases List.mem_map.mp mem with ⟨other, _, rfl⟩
    rw [width, List.length_map]
    exact List.length_take_le _ _

theorem spread_readTable {number : Nat} {after : List Text}
    (spread : Spread (PlacedBlock.kept ⟨number, line :: after.take (readTable number line after).further,
      (readTable number line after).block⟩) tokens) :
    Spread (readTable number line after).block.texts tokens := by
  revert spread
  unfold readTable
  dsimp only
  split
  · rename_i separator row rows isRows
    split
    · exact fun spread => spread_paragraph spread.bears
    · split
      · exact fun spread => spread_paragraph spread.bears
      · rename_i separates
        intro spread
        have columns : (readGrid number (splitRow (Text.strip line)) (row :: rows)).1.columnCount =
            (splitRow (Text.strip line)).length := by
          simp [readGrid, Grid.columnCount]
        have areRows : Text.strip line :: separator :: row :: rows =
            (line :: after.take ((after.map Text.strip).takeWhile (['|'].isPrefixOf ·)).length).map
              Text.strip := by
          rw [List.map_cons, ← takeWhile_rows, isRows]
        have cells := spread.flatMap fun _ _ _ own => spread_cells own
        have byRow : Spread ((Text.strip line :: separator :: row :: rows).flatMap fun text =>
            (splitRow text).take (splitRow (Text.strip line)).length) tokens := by
          rw [areRows, List.flatMap_map, ← columns]
          exact cells
        rw [List.flatMap_cons, List.flatMap_cons, List.take_length] at byRow
        rw [texts_table]
        apply spread_readGrid _ byRow
        have isSeparator : splitRow separator ≠ [] ∧
            ∀ cell ∈ splitRow separator, isSeparatorCell cell = true := by
          simpa using separates
        exact List.all_eq_true.mpr isSeparator.2
  · exact fun spread => spread_paragraph spread.bears

/-! ### Lists -/

theorem spread_item {text : Text} (isItem : item? (Text.strip line) = some text)
    (bears : Bears line tokens) : Bears (Text.strip text) tokens := by
  rcases exists_mark_of_item? isItem with ⟨mark, marked, _, areMarks⟩
  have unopened : '[' ∉ mark := not_mem_of_isMark (by decide) areMarks
  have stripped := bears.of_strip
  rw [marked] at stripped
  exact (stripped.of_behind unopened).of_strip

/-- The induction follows the lines; a blank one bears no token. -/
theorem spread_listItems {lines : List Text} (spread : Spread (lines.take (listItems lines).2) tokens) :
    Spread ((listItems lines).1.map (·.2)) tokens := by
  induction lines generalizing tokens with
  | nil => exact spread
  | cons line rest step =>
      revert spread
      rw [listItems]
      dsimp only
      split
      · rename_i isBlank
        split
        · intro spread
          cases spread with
          | cons bears following =>
              have stripped := bears.of_strip
              rw [List.isEmpty_iff.mp isBlank] at stripped
              rw [stripped.eq_nil]
              exact step following
        · exact id
      · split
        · exact id
        · rename_i text isItem
          intro spread
          cases spread with
          | cons bears following => exact .cons (spread_item isItem bears) (step following)

theorem spread_listLines (ordered : Bool) (number offset : Nat) {items : List StyledText}
    (spread : Spread (items.map (·.text)) tokens) :
    Spread (listLines ordered number offset items).1 tokens := by
  induction items generalizing number offset tokens with
  | nil => exact spread
  | cons item rest step =>
      cases spread with
      | cons bears following => exact .cons (bears.behind _) (step _ _ following)

theorem spread_readList {after : List Text} (isItem : (item? (Text.strip line)).isSome = true)
    (spread : Spread (line :: after.take (readList line after).further) tokens) :
    Spread (readList line after).block.texts tokens := by
  have taken : line :: after.take (readList line after).further =
      (line :: after).take (listItems (line :: after)).2 := by
    rcases listItems_cons_of_item after isItem with ⟨items, count, found⟩
    rw [readList, found]
    rfl
  rw [taken] at spread
  have shown : Spread ((((listItems (line :: after)).1.map fun entry =>
      (⟨(inlineSpans entry.2).1, (inlineSpans entry.2).2⟩ : StyledText))).map (·.text)) tokens := by
    rw [List.map_map]
    exact (spread_listItems spread).map fun _ _ _ own => bears_inlineSpans own
  exact .singleton ((spread_listLines _ 1 0 shown).joinLines.before ['\n', '\n'])

/-! ### All blocks -/

variable {diagramLanguages : List Text} {number : Nat} {after : List Text}

theorem spread_readBlock (spread : Spread (PlacedBlock.kept
      ⟨number, line :: after.take (readBlock diagramLanguages number line after).further,
        (readBlock diagramLanguages number line after).block⟩) tokens) :
    Spread (readBlock diagramLanguages number line after).block.texts tokens := by
  rcases fence_cases line after with ⟨body, closing, opens, closes⟩ | unclosed
  · have bare (place : PlacedBlock) (isFence : place.block.fence?.isSome = true) :
        place.kept = [] := by
      rw [PlacedBlock.kept, PlacedBlock.outside, if_pos isFence]
      split <;> rfl
    rw [readBlock_of_closed opens closes, bare _ (by simp)] at spread
    rw [spread.eq_nil]
    exact .none _
  · revert spread
    cases opens : opensFence line with
    | true =>
        rw [readBlock_of_unclosed opens (unclosed opens)]
        exact fun spread => spread_paragraph spread.bears
    | false =>
        rw [readBlock, opens, if_neg Bool.false_ne_true]
        split
        · exact spread_readTable
        · split
          · exact fun spread => spread_heading spread.bears
          · split
            · rename_i isItem
              exact spread_readList isItem
            · split
              · exact fun spread => .singleton (spread.bears.of_strip.before ['\n'])
              · exact fun spread => spread_paragraph spread.bears

theorem spread_of_mem_placedLines {skip : Nat} {lines : List Text} {place : PlacedBlock}
    (mem : place ∈ placedLines diagramLanguages number skip lines) (tokens : List Text)
    (spread : Spread place.kept tokens) : Spread place.block.texts tokens := by
  induction lines generalizing number skip with
  | nil => cases mem
  | cons line after step =>
      cases skip with
      | succ skip => exact step mem
      | zero =>
          simp only [placedLines] at mem
          split at mem
          · exact step mem
          · rcases List.mem_cons.mp mem with rfl | mem
            · exact spread_readBlock spread
            · exact step mem

/-- What blocks take outside of closed fences is what stands there. -/
theorem agree_outside (diagramLanguages : List Text) :
    Agree diagramLanguages (fun place => shownLines place.outside)
      fun stretch => shownLines stretch.outside where
  blank number line isBlank := shownLines_cons_of_blank isBlank []
  fence number line after body closing opens closes := by
    rw [readBlock_of_closed opens closes]
    simp [PlacedBlock.outside, Stretch.outside, shownLines]
  lines number line after _ unclosed := by
    have alone (lines : List Text) :
        (lines.zipIdx number).flatMap (fun place => [place.1]) = lines := by
      rw [← List.map_eq_flatMap, List.zipIdx_map_fst]
    simp only [PlacedBlock.outside, fence?_readBlock unclosed, Stretch.outside, ← shownLines_flatMap,
      alone]
    rfl

end Markdown

/-- Every token that stands outside of closed fences comes through compilation, unbroken and in order,
unless it stands in a cell to the right of a table's header. -/
theorem spread_compile (diagramLanguages : List Text) (markdown : Text) :
    shownLines ((placed diagramLanguages markdown).flatMap PlacedBlock.outside) =
        shownLines (outsideLines markdown) ∧
      ∀ tokens, Spread ((placed diagramLanguages markdown).flatMap PlacedBlock.kept) tokens →
        Spread (compile (classify diagramLanguages markdown)).texts tokens := by
  constructor
  · rw [outsideLines, shownLines_flatMap, shownLines_flatMap]
    exact (agree_outside diagramLanguages).flatMap_placedLines 1 0 (documentLines markdown)
  · intro tokens spread
    rw [texts_compile, ← map_block_placed, List.flatMap_map]
    exact spread.flatMap fun _ mem => spread_of_mem_placedLines mem

/-- A document with tokens in markup, in a cell to the right of a header, and in a fence. -/
def marked : Text :=
  joinLines ["# **[[[LINK_0]]]**".toList, "- _[[[IMAGE_1]]]_".toList, "| a |".toList,
    "|---|".toList, "| `[[[LINK_2]]]` | [[[LINK_3]]] |".toList, "```".toList,
    "[[[LINK_4]]]".toList, "```".toList]

theorem spread_compile_marked :
    let tokens := ["[[[LINK_0]]]".toList, "[[[IMAGE_1]]]".toList, "[[[LINK_2]]]".toList]
    Spread ((placed [] marked).flatMap PlacedBlock.kept) tokens ∧
      Spread (compile (classify [] marked)).texts tokens := by
  intro tokens
  have kept : (placed [] marked).flatMap PlacedBlock.kept =
      ["# **".toList ++ ("[[[LINK_0]]]".toList ++ "**".toList),
        "- _".toList ++ ("[[[IMAGE_1]]]".toList ++ ['_']), "| a |".toList, "|---|".toList,
        ['`'] ++ ("[[[LINK_2]]]".toList ++ ['`'])] := by
    decide +kernel
  have decimal {digit other : Char} (isDigit : isDecimal digit = true) (mem : other ∈ [digit]) :
      isDecimal other = true := by
    rwa [List.mem_singleton.mp mem]
  have link (digit : Char) (isDigit : isDecimal digit = true) :
      IsNumbered ("[[[LINK_".toList ++ [digit, ']', ']', ']']) :=
    ⟨.link, [digit], rfl, List.cons_ne_nil _ _, fun _ mem => decimal isDigit mem⟩
  have image : IsNumbered "[[[IMAGE_1]]]".toList :=
    ⟨.image, ['1'], rfl, List.cons_ne_nil _ _, fun _ mem => decimal (by decide) mem⟩
  have spread : Spread ((placed [] marked).flatMap PlacedBlock.kept) tokens := by
    rw [kept]
    apply Spread.cons (.token _ (link '0' (by decide)) (.none _))
    apply Spread.cons (.token _ image (.none _))
    apply Spread.cons (.none _)
    apply Spread.cons (.none _)
    apply Spread.singleton
    exact .token _ (link '2' (by decide)) (.none _)
  exact ⟨spread, (spread_compile [] marked).2 _ spread⟩

end DocBinder
