import DocBinder.Proofs.Markdown.Code
import DocBinder.Proofs.Markdown.Sources
import DocBinder.Proofs.Markdown.Spans

/-!
# The code that blocks show

Paragraphs, the entries of lists and the cells of tables are parts of the lines outside closed fences.
So what they show as code is inline code of such a line, when no row of a table is cut inside code.
-/

namespace DocBinder

/-- The styled texts of a block. -/
inductive Block.Shows : Block → StyledText → Prop
  | entry {source : Text} {ordered : Bool} {items : List StyledText} {content : StyledText}
      (mem : content ∈ items) : Shows (.list source ordered items) content
  | cell (source : Text) (grid : Grid) (row column : Nat) :
      Shows (.table source grid) ⟨grid.cellText row column, grid.spans row column⟩
  | paragraph (source : Text) (content : StyledText) : Shows (.paragraph source content) content

/-- A text that a block shows as inline code. -/
def Block.ShowsCode (block : Block) (code : Text) : Prop :=
  ∃ content, block.Shows content ∧ ∃ span ∈ content.spans, span.style = .code ∧
    content.text.extract span.start span.stop = code

namespace Markdown

/-- A line whose inline code is known and, where it begins like a row of a table, holds no bar. -/
def Orderly (isKnown : Text → Prop) (line : Text) : Prop :=
  ∃ codes, Coded line codes ∧ (∀ code ∈ codes, isKnown code) ∧
    (['|'] <+: Text.strip line → ∀ code ∈ codes, '|' ∉ code)

variable {isKnown : Text → Prop}

/-! ## One styled text -/

theorem Coded.code_of_shows {line code : Text} {codes : List Text} (coded : Coded line codes)
    (areKnown : ∀ code ∈ codes, isKnown code) {span : Span} (mem : span ∈ (inlineSpans line).2)
    (isCode : span.style = .code)
    (same : (inlineSpans line).1.extract span.start span.stop = code) : isKnown code := by
  rw [← same]
  exact areKnown _ (coded.mem_of_mem_inlineSpans mem isCode)

theorem Orderly.code_of_paragraph {line code : Text} (orderly : Orderly isKnown line)
    (shows : (paragraph (Text.strip line)).ShowsCode code) : isKnown code := by
  rcases orderly with ⟨codes, coded, areKnown, _⟩
  rcases shows with ⟨content, shows, span, mem, isCode, same⟩
  cases shows
  exact coded.strip.code_of_shows areKnown mem isCode same

/-! ## Tables -/

/-- A row is cut at its bars, and an empty cell at either end is left out. -/
theorem splitRow_cases (line : Text) :
    ∃ cells, ((Text.splitOn '|' line).map Text.strip = cells ∨
        (Text.splitOn '|' line).map Text.strip = [] :: cells) ∧
      (splitRow line = cells ∨ cells.getLast? = some [] ∧ splitRow line = cells.dropLast) := by
  unfold splitRow
  generalize (Text.splitOn '|' line).map Text.strip = pieces
  rcases pieces with _ | ⟨_ | ⟨character, first⟩, rest⟩
  · exact ⟨[], .inl rfl, .inl rfl⟩
  · refine ⟨rest, .inr rfl, ?_⟩
    dsimp only
    split
    · rename_i trails
      exact .inr ⟨trails, rfl⟩
    · exact .inl rfl
  · refine ⟨(character :: first) :: rest, .inl rfl, ?_⟩
    dsimp only
    split
    · rename_i trails
      exact .inr ⟨trails, rfl⟩
    · exact .inl rfl

theorem exists_splitOn_of_mem_splitRow {line cell : Text} (mem : cell ∈ splitRow line) :
    ∃ piece ∈ Text.splitOn '|' line, cell = Text.strip piece := by
  have within : cell ∈ (Text.splitOn '|' line).map Text.strip := by
    rcases splitRow_cases line with ⟨cells, whole, kept⟩
    have memCells : cell ∈ cells := by
      rcases kept with same | ⟨_, same⟩
      · rwa [same] at mem
      · rw [same] at mem
        exact List.dropLast_subset _ mem
    rcases whole with whole | whole
    · rwa [whole]
    · rw [whole]
      exact List.mem_cons_of_mem _ memCells
  rcases List.mem_map.mp within with ⟨piece, pieceMem, rfl⟩
  exact ⟨piece, pieceMem, rfl⟩

theorem Orderly.exists_coded_of_mem_splitRow {line cell : Text} (orderly : Orderly isKnown line)
    (isRow : ['|'] <+: Text.strip line) (mem : cell ∈ splitRow (Text.strip line)) :
    ∃ codes, Coded cell codes ∧ ∀ code ∈ codes, isKnown code := by
  rcases orderly with ⟨codes, coded, areKnown, outside⟩
  rcases exists_splitOn_of_mem_splitRow mem with ⟨piece, pieceMem, rfl⟩
  rcases coded.strip.of_mem_splitOn (by decide) (outside isRow) pieceMem with ⟨own, isSubset, pieceCoded⟩
  exact ⟨own, pieceCoded.strip, fun code mem => areKnown code (isSubset mem)⟩

/-- What a grid shows as code is code of its cells. -/
theorem code_of_readGrid {number : Nat} {headers body : List Text} {source code : Text}
    (cells : ∀ cell, cell ∈ headers ∨ (∃ row ∈ body, cell ∈ splitRow row) →
      ∃ codes, Coded cell codes ∧ ∀ code ∈ codes, isKnown code)
    (shows : (Block.table source (readGrid number headers body).1).ShowsCode code) :
    isKnown code := by
  let styled : List (List (Text × List Span)) :=
    (headers :: (body.map splitRow).map (·.take headers.length)).map (·.map inlineSpans)
  change (Block.table source (gridOf styled)).ShowsCode code at shows
  rcases shows with ⟨content, shows, span, mem, isCode, same⟩
  cases shows with
  | cell _ _ row column =>
      rw [spans_gridOf] at mem
      rw [cellText_gridOf] at same
      cases found : styled[row]?.bind (·[column]?) with
      | none =>
          rw [found] at mem
          cases mem
      | some cell =>
          rw [found] at mem same
          rcases Option.bind_eq_some_iff.mp found with ⟨styledCells, cellsFound, cellFound⟩
          rcases List.mem_map.mp (List.mem_of_getElem? cellsFound) with ⟨texts, textsMem, rfl⟩
          rcases List.mem_map.mp (List.mem_of_getElem? cellFound) with ⟨text, textMem, rfl⟩
          have isCell : text ∈ headers ∨ ∃ row ∈ body, text ∈ splitRow row := by
            rcases List.mem_cons.mp textsMem with rfl | textsMem
            · exact .inl textMem
            · simp only [List.map_map, List.mem_map, Function.comp_apply] at textsMem
              rcases textsMem with ⟨row, rowMem, rfl⟩
              exact .inr ⟨row, rowMem, List.mem_of_mem_take textMem⟩
          rcases cells text isCell with ⟨codes, coded, areKnown⟩
          exact coded.code_of_shows areKnown mem isCode same

/-- The rows behind the first line of a table are the lines there, stripped. -/
theorem takeWhile_rows (after : List Text) :
    (after.map Text.strip).takeWhile (['|'].isPrefixOf ·) =
      (after.take ((after.map Text.strip).takeWhile (['|'].isPrefixOf ·)).length).map Text.strip := by
  rw [List.map_take]
  exact List.prefix_iff_eq_take.mp (List.takeWhile_prefix _)

theorem isRow_of_mem_takeWhile {after : List Text} {text : Text}
    (mem : text ∈ (after.map Text.strip).takeWhile (['|'].isPrefixOf ·)) : ['|'] <+: text :=
  List.isPrefixOf_iff_prefix.mp (List.mem_takeWhile_imp mem)

theorem isRow_of_mem_further {number : Nat} {line other : Text} {after : List Text}
    (mem : other ∈ after.take (readTable number line after).further) :
    ['|'] <+: Text.strip other := by
  have within : other ∈
      after.take ((after.map Text.strip).takeWhile (['|'].isPrefixOf ·)).length := by
    revert mem
    unfold readTable
    dsimp only
    split
    · split
      · exact fun mem => absurd mem List.not_mem_nil
      · split
        · exact fun mem => absurd mem List.not_mem_nil
        · exact id
    · exact fun mem => absurd mem List.not_mem_nil
  have stripped := List.mem_map_of_mem (f := Text.strip) within
  rw [← takeWhile_rows] at stripped
  exact isRow_of_mem_takeWhile stripped

theorem code_of_readTable {number : Nat} {line code : Text} {after : List Text}
    (isRow : ['|'] <+: Text.strip line) (orderly : Orderly isKnown line)
    (further : ∀ other ∈ after.take (readTable number line after).further, Orderly isKnown other)
    (shows : (readTable number line after).block.ShowsCode code) : isKnown code := by
  revert further shows
  unfold readTable
  dsimp only
  split
  · rename_i separator row rows isRows
    split
    · exact fun _ shows => orderly.code_of_paragraph shows
    · split
      · exact fun _ shows => orderly.code_of_paragraph shows
      · intro further shows
        refine code_of_readGrid ?_ shows
        rintro cell (mem | ⟨text, textMem, mem⟩)
        · exact orderly.exists_coded_of_mem_splitRow isRow mem
        · have taken : text ∈ (after.map Text.strip).takeWhile (['|'].isPrefixOf ·) := by
            rw [isRows]
            exact List.mem_cons_of_mem _ textMem
          have isOtherRow := isRow_of_mem_takeWhile taken
          rw [takeWhile_rows] at taken
          rcases List.mem_map.mp taken with ⟨other, otherMem, rfl⟩
          exact (further other otherMem).exists_coded_of_mem_splitRow isOtherRow mem
  · exact fun _ shows => orderly.code_of_paragraph shows

/-! ## Lists -/

/-- The characters that marks of list entries are made of. -/
def isMark (character : Char) : Bool :=
  Text.isBlank character || Text.isDecimal character || ['*', '+', '-', '.'].contains character

theorem exists_mark_of_afterBlanks? {line text : Text} (reads : afterBlanks? line = some text) :
    ∃ blanks, line = blanks ++ text ∧ ∀ character ∈ blanks, isMark character = true := by
  cases line with
  | nil => cases reads
  | cons character rest =>
      rw [afterBlanks?] at reads
      split at reads
      · rename_i isBlank
        cases reads
        refine ⟨character :: rest.takeWhile Text.isBlank, ?_, ?_⟩
        · exact congrArg (character :: ·) List.takeWhile_append_dropWhile.symm
        · intro other mem
          have blank : Text.isBlank other = true := by
            rcases List.mem_cons.mp mem with rfl | mem
            · exact isBlank
            · exact List.mem_takeWhile_imp mem
          simp [isMark, blank]
      · cases reads

/-- The mark of a list entry is a bullet, or a number and a dot, and blanks. -/
theorem exists_mark_of_item? {line text : Text} (reads : item? line = some text) :
    ∃ mark, line = mark ++ text ∧ mark ≠ [] ∧ ∀ character ∈ mark, isMark character = true := by
  have behind {front rest : Text} (nonempty : front ≠ [])
      (areMarks : ∀ character ∈ front, isMark character = true)
      (reads : afterBlanks? rest = some text) :
      ∃ mark, front ++ rest = mark ++ text ∧ mark ≠ [] ∧
        ∀ character ∈ mark, isMark character = true := by
    rcases exists_mark_of_afterBlanks? reads with ⟨blanks, rfl, areBlanks⟩
    refine ⟨front ++ blanks, (List.append_assoc _ _ _).symm, by simp [nonempty], ?_⟩
    intro character mem
    rcases List.mem_append.mp mem with mem | mem
    · exact areMarks character mem
    · exact areBlanks character mem
  rw [item?, Option.or_eq_some_iff] at reads
  rcases reads with reads | ⟨_, reads⟩
  · unfold bulletItem? at reads
    have bullet (character : Char) (isBullet : isMark character = true) :
        ∀ other ∈ [character], isMark other = true := by
      intro other mem
      rwa [List.mem_singleton.mp mem]
    split at reads
    · exact behind (List.cons_ne_nil _ _) (bullet '*' (by decide)) reads
    · exact behind (List.cons_ne_nil _ _) (bullet '+' (by decide)) reads
    · exact behind (List.cons_ne_nil _ _) (bullet '-' (by decide)) reads
    · cases reads
  · unfold numberedItem? at reads
    extract_lets digits at reads
    split at reads
    · cases reads
    · split at reads
      · rename_i isNumber rest dot
        have whole := List.prefix_iff_eq_append.mp (List.takeWhile_prefix Text.isDecimal (l := line))
        rw [dot] at whole
        have areMarks : ∀ character ∈ line.takeWhile Text.isDecimal ++ ['.'],
            isMark character = true := by
          intro character mem
          rcases List.mem_append.mp mem with mem | mem
          · simp [isMark, List.mem_takeWhile_imp mem]
          · rw [List.mem_singleton.mp mem]
            decide
        have marked := behind (by simp) areMarks reads
        rwa [List.append_assoc, List.singleton_append, whole] at marked
      · cases reads

theorem not_mem_of_isMark {mark : Text} {character : Char} (notMark : isMark character = false)
    (areMarks : ∀ other ∈ mark, isMark other = true) : character ∉ mark := by
  intro mem
  rw [areMarks character mem] at notMark
  cases notMark

theorem exists_line_of_mem_listItems {lines : List Text} {entry : Text × Text}
    (mem : entry ∈ (listItems lines).1) :
    ∃ line ∈ lines.take (listItems lines).2, ∃ text, item? (Text.strip line) = some text ∧
      entry.2 = Text.strip text := by
  induction lines with
  | nil => cases mem
  | cons line rest step =>
      have later {count : Nat} (mem : entry ∈ (listItems rest).1)
          (isCount : count = (listItems rest).2 + 1) :
          ∃ other ∈ (line :: rest).take count, ∃ text, item? (Text.strip other) = some text ∧
            entry.2 = Text.strip text := by
        rcases step mem with ⟨other, otherMem, found⟩
        rw [isCount, List.take_succ_cons]
        exact ⟨other, List.mem_cons_of_mem _ otherMem, found⟩
      revert mem
      rw [listItems]
      dsimp only
      split
      · split
        · exact fun mem => later mem rfl
        · exact fun mem => absurd mem List.not_mem_nil
      · split
        · exact fun mem => absurd mem List.not_mem_nil
        · rename_i text isItem
          intro mem
          rcases List.mem_cons.mp mem with rfl | mem
          · exact ⟨line, List.mem_cons_self, text, isItem, rfl⟩
          · exact later mem rfl

theorem code_of_readList {line code : Text} {after : List Text}
    (isItem : (item? (Text.strip line)).isSome = true) (orderly : Orderly isKnown line)
    (further : ∀ other ∈ after.take (readList line after).further, Orderly isKnown other)
    (shows : (readList line after).block.ShowsCode code) : isKnown code := by
  rcases shows with ⟨content, shows, span, mem, isCode, same⟩
  cases shows with
  | entry contentMem =>
      rcases List.mem_map.mp contentMem with ⟨entry, entryMem, rfl⟩
      have isEntry : entry ∈ (listItems (line :: after)).1 := entryMem
      rcases exists_line_of_mem_listItems isEntry with ⟨other, otherMem, text, isEntry, isText⟩
      have otherOrderly : Orderly isKnown other := by
        rcases listItems_cons_of_item after isItem with ⟨items, count, found⟩
        rw [found, List.take_succ_cons] at otherMem
        rw [readList, found] at further
        rcases List.mem_cons.mp otherMem with rfl | otherMem
        · exact orderly
        · exact further other otherMem
      rcases otherOrderly with ⟨codes, coded, areKnown, _⟩
      rcases exists_mark_of_item? isEntry with ⟨mark, marked, _, areMarks⟩
      have free : '`' ∉ mark := not_mem_of_isMark (by decide) areMarks
      have stripped := coded.strip
      rw [marked] at stripped
      have shown := (stripped.of_prepend free).strip
      rw [← isText] at shown
      exact shown.code_of_shows areKnown mem isCode same

/-! ## One block -/

/-- Lines outside closed fences, all of them orderly, and closed fences. -/
inductive Laid (isKnown : Text → Prop) : List Text → Prop
  | done : Laid isKnown []
  | line {line : Text} {rest : List Text} (unopened : opensFence line = false)
      (orderly : Orderly isKnown line) (following : Laid isKnown rest) : Laid isKnown (line :: rest)
  | fence {line closing : Text} {body rest : List Text} (opens : opensFence line = true)
      (inside : ∀ other ∈ body, closesFence other = false) (closes : closesFence closing = true)
      (following : Laid isKnown rest) : Laid isKnown (line :: (body ++ closing :: rest))

namespace Laid

theorem append {lines others : List Text} (laid : Laid isKnown lines) (further : Laid isKnown others) :
    Laid isKnown (lines ++ others) := by
  induction laid with
  | done => exact further
  | line unopened orderly following step => exact .line unopened orderly step
  | fence opens inside closes following step =>
      rw [List.cons_append, List.append_assoc, List.cons_append]
      exact .fence opens inside closes step

/-- Lines none of which opens a fence are orderly, and what follows is laid out like the whole. -/
theorem cut {lines : List Text} {count : Nat} (laid : Laid isKnown lines)
    (unopened : ∀ line ∈ lines.take count, opensFence line = false) :
    (∀ line ∈ lines.take count, Orderly isKnown line) ∧ Laid isKnown (lines.drop count) := by
  induction count generalizing lines with
  | zero => exact ⟨fun _ mem => absurd mem List.not_mem_nil, laid⟩
  | succ count step =>
      cases laid with
      | done => exact ⟨fun _ mem => absurd mem List.not_mem_nil, .done⟩
      | line own orderly following =>
          rcases step following (fun other mem => unopened other (List.mem_cons_of_mem _ mem)) with
            ⟨others, laid⟩
          refine ⟨?_, laid⟩
          intro other mem
          rcases List.mem_cons.mp mem with rfl | mem
          · exact orderly
          · exact others other mem
      | fence opens inside closes following =>
          have closed := unopened _ List.mem_cons_self
          rw [opens] at closed
          cases closed

end Laid

/-- A line whose code can be read off does not begin with three backticks. -/
theorem Coded.opensFence {line : Text} {codes : List Text} (coded : Coded line codes) :
    opensFence line = false := by
  rw [Bool.eq_false_iff]
  intro opens
  rcases List.isPrefixOf_iff_prefix.mp opens with ⟨rest, same⟩
  have stripped := coded.strip
  rw [← same] at stripped
  generalize isWhole : fenceMarker ++ rest = whole at stripped
  cases stripped with
  | plain single =>
      rw [← isWhole, List.count_append] at single
      have marks : fenceMarker.count '`' = 3 := rfl
      omega
  | code free nonempty closed unbroken following =>
      rename_i before inner rest codes
      rcases before with _ | ⟨character, before⟩
      · rcases inner with _ | ⟨character, inner⟩
        · exact nonempty rfl
        · simp only [fenceMarker, List.cons_append, List.nil_append, List.cons.injEq] at isWhole
          rw [← isWhole.2.1] at closed
          simp at closed
      · simp only [fenceMarker, List.cons_append, List.nil_append, List.cons.injEq] at isWhole
        rw [← isWhole.1] at free
        simp at free

theorem opensFence_of_isRow {line : Text} (isRow : ['|'] <+: Text.strip line) :
    opensFence line = false := by
  rcases isRow with ⟨rest, same⟩
  rw [opensFence, ← same]
  rfl

theorem opensFence_of_isEmpty {line : Text} (isEmpty : (Text.strip line).isEmpty = true) :
    opensFence line = false := by
  rw [opensFence, List.isEmpty_iff.mp isEmpty]
  rfl

theorem opensFence_of_item {line text : Text} (isItem : item? (Text.strip line) = some text) :
    opensFence line = false := by
  rcases exists_mark_of_item? isItem with ⟨mark, marked, nonempty, areMarks⟩
  have free : '`' ∉ mark := not_mem_of_isMark (by decide) areMarks
  rw [opensFence, marked]
  rcases mark with _ | ⟨character, mark⟩
  · exact absurd rfl nonempty
  · rw [List.mem_cons, not_or] at free
    simp [fenceMarker, List.isPrefixOf, free.1]

/-- A line that can join the block above it: a row of a table, an entry of a list, or a blank line. -/
def Joins (line : Text) : Prop :=
  ['|'] <+: Text.strip line ∨ (Text.strip line).isEmpty = true ∨
    (item? (Text.strip line)).isSome = true

theorem Joins.opensFence {line : Text} (joins : Joins line) : opensFence line = false := by
  rcases joins with isRow | isBlank | isItem
  · exact opensFence_of_isRow isRow
  · exact opensFence_of_isEmpty isBlank
  · rcases Option.isSome_iff_exists.mp isItem with ⟨text, isItem⟩
    exact opensFence_of_item isItem

theorem joins_of_mem_listItems {lines : List Text} :
    ∀ line ∈ lines.take (listItems lines).2, Joins line := by
  induction lines with
  | nil => exact fun _ mem => absurd mem List.not_mem_nil
  | cons line rest step =>
      have later (own : Joins line) :
          ∀ other ∈ (line :: rest).take ((listItems rest).2 + 1), Joins other := by
        intro other mem
        rw [List.take_succ_cons] at mem
        rcases List.mem_cons.mp mem with rfl | mem
        · exact own
        · exact step other mem
      rw [listItems]
      dsimp only
      split
      · rename_i isBlank
        split
        · exact later (.inr (.inl isBlank))
        · exact fun _ mem => absurd mem List.not_mem_nil
      · split
        · exact fun _ mem => absurd mem List.not_mem_nil
        · rename_i text isItem
          exact later (.inr (.inr (by rw [isItem]; rfl)))

section Block

variable {diagramLanguages : List Text} {number : Nat} {line : Text} {after : List Text}

/-- A block that begins outside a fence takes only lines that join it. -/
theorem joins_of_mem_further (unopened : opensFence line = false) :
    ∀ other ∈ after.take (readBlock diagramLanguages number line after).further, Joins other := by
  rw [readBlock, unopened, if_neg Bool.false_ne_true]
  split
  · intro other mem
    exact .inl (isRow_of_mem_further mem)
  · split
    · exact fun _ mem => absurd mem List.not_mem_nil
    · split
      · rename_i isItem
        intro other mem
        rcases listItems_cons_of_item after isItem with ⟨items, count, found⟩
        have joinItems : ∀ entry ∈ (line :: after).take (listItems (line :: after)).2, Joins entry :=
          joins_of_mem_listItems
        rw [found, List.take_succ_cons] at joinItems
        rw [readList, found] at mem
        exact joinItems other (List.mem_cons_of_mem _ mem)
      · split
        · exact fun _ mem => absurd mem List.not_mem_nil
        · exact fun _ mem => absurd mem List.not_mem_nil

/-- A block that begins outside a fence ends before the next one. -/
theorem opensFence_of_mem_further (unopened : opensFence line = false) :
    ∀ other ∈ after.take (readBlock diagramLanguages number line after).further,
      opensFence other = false :=
  fun other mem => (joins_of_mem_further unopened other mem).opensFence

theorem code_of_readBlock {code : Text} (unopened : opensFence line = false)
    (orderly : Orderly isKnown line)
    (further : ∀ other ∈ after.take (readBlock diagramLanguages number line after).further,
      Orderly isKnown other)
    (shows : (readBlock diagramLanguages number line after).block.ShowsCode code) :
    isKnown code := by
  revert further shows
  rw [readBlock, unopened, if_neg Bool.false_ne_true]
  split
  · rename_i isRow
    exact code_of_readTable (List.isPrefixOf_iff_prefix.mp isRow) orderly
  · split
    · rintro _ ⟨content, shows, _⟩
      cases shows
    · split
      · rename_i isItem
        exact code_of_readList isItem orderly
      · split
        · rintro _ ⟨content, shows, _⟩
          cases shows
        · exact fun _ shows => orderly.code_of_paragraph shows

end Block

/-! ## All blocks -/

theorem fenceBody?_append {body : List Text} {closing : Text}
    (inside : ∀ other ∈ body, closesFence other = false) (closes : closesFence closing = true)
    (rest : List Text) : fenceBody? (body ++ closing :: rest) = some (body, closing) := by
  induction body with
  | nil => rw [List.nil_append, fenceBody?, if_pos closes]
  | cons line body step =>
      have own := inside line List.mem_cons_self
      rw [List.cons_append, fenceBody?, own, if_neg Bool.false_ne_true,
        step fun other mem => inside other (List.mem_cons_of_mem _ mem)]
      rfl

/-- A closed fence is a block without inline code. -/
theorem exists_readFence {diagramLanguages : List Text} {number : Nat} (line : Text)
    {body : List Text} {closing : Text} (inside : ∀ other ∈ body, closesFence other = false)
    (closes : closesFence closing = true) (rest : List Text) :
    ∃ block notes, readFence diagramLanguages number line (body ++ closing :: rest) =
      ⟨block, notes, body.length + 1⟩ ∧ ∀ code, ¬ block.ShowsCode code := by
  rw [readFence, fenceBody?_append inside closes rest]
  dsimp only
  split
  · refine ⟨_, _, rfl, ?_⟩
    rintro code ⟨content, shows, _⟩
    cases shows
  · refine ⟨_, _, rfl, ?_⟩
    rintro code ⟨content, shows, _⟩
    cases shows

/-- Reading goes from line to line and passes over whole fences, so that no line of a fence is taken for
a line outside. -/
theorem code_of_readLines {diagramLanguages : List Text} {number skip : Nat} {lines : List Text}
    (laid : Laid isKnown (lines.drop skip)) :
    ∀ reading ∈ readLines diagramLanguages number skip lines, ∀ code,
      reading.block.ShowsCode code → isKnown code := by
  induction lines generalizing number skip with
  | nil => exact fun _ mem => absurd mem List.not_mem_nil
  | cons line after step =>
      cases skip with
      | succ skip => exact step laid
      | zero =>
          simp only [readLines]
          rw [List.drop_zero] at laid
          split
          · rename_i isBlank
            cases laid with
            | line unopened orderly following => exact step following
            | fence opens inside closes following =>
                rw [opensFence_of_isEmpty isBlank] at opens
                cases opens
          · intro reading mem
            cases laid with
            | line unopened orderly following =>
                rcases following.cut (opensFence_of_mem_further unopened) with ⟨others, behind⟩
                rcases List.mem_cons.mp mem with rfl | mem
                · exact fun code shows => code_of_readBlock unopened orderly others shows
                · exact step behind reading mem
            | fence opens inside closes following =>
                rename_i closing body rest
                have passed : (body ++ closing :: rest).drop (body.length + 1) = rest := by
                  rw [← List.drop_drop, List.drop_left]
                  rfl
                rw [← passed] at following
                rcases exists_readFence line inside closes rest with ⟨block, notes, reads, noCode⟩
                rw [readBlock, if_pos opens, reads] at mem
                rcases List.mem_cons.mp mem with rfl | mem
                · exact fun code shows => absurd shows (noCode code)
                · exact step following reading mem

/-- What a document shows as code is inline code of a line outside its fences. -/
theorem code_of_classify {diagramLanguages : List Text} {markdown : Text}
    (laid : Laid isKnown (documentLines markdown)) :
    ∀ block ∈ classify diagramLanguages markdown, ∀ code, block.ShowsCode code → isKnown code := by
  intro block mem
  rcases List.mem_map.mp mem with ⟨reading, readingMem, rfl⟩
  exact code_of_readLines laid reading readingMem

end Markdown

end DocBinder
