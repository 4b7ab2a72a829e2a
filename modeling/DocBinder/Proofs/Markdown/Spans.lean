import DocBinder.Markdown.Classify
import DocBinder.Proofs.Markdown.Passages

/-!
# Spans of what is read

Whatever text is read from a line, its spans are parts of it, none of them empty, one behind the
other. This file follows them from the cells of tables up to whole documents.
-/

namespace DocBinder

namespace Markdown

/-! ## The cells of a table -/

/-- The grid of styled rows, the first of which is the header. -/
def gridOf (styled : List (List (Text × List Span))) : Grid :=
  ⟨(styled.headD []).map (·.1), styled.tail.map (·.map (·.1)), styled.map (·.map (·.2))⟩

theorem cellText_gridOf (styled : List (List (Text × List Span))) (row column : Nat) :
    (gridOf styled).cellText row column =
      ((styled[row]?.bind (·[column]?)).map (·.1)).getD [] := by
  cases styled with
  | nil => cases row <;> simp [gridOf, Grid.cellText, Grid.row?]
  | cons header rows =>
      cases row with
      | zero => simp [gridOf, Grid.cellText, Grid.row?]
      | succ row => cases found : rows[row]? <;> simp [gridOf, Grid.cellText, Grid.row?, found]

theorem spans_gridOf (styled : List (List (Text × List Span))) (row column : Nat) :
    (gridOf styled).spans row column =
      ((styled[row]?.bind (·[column]?)).map (·.2)).getD [] := by
  cases found : styled[row]? <;> simp [gridOf, Grid.spans, found]

end Markdown

/-- A grid has columns, no row is longer than its header, and the text of every cell is tidy. -/
structure Grid.Tidy (grid : Grid) : Prop where
  headed : 1 ≤ grid.columnCount
  short : ∀ row ∈ grid.rows, row.length ≤ grid.columnCount
  cells : ∀ row column, StyledText.Tidy ⟨grid.cellText row column, grid.spans row column⟩

/-- The texts of a block are tidy. -/
def Block.Tidy : Block → Prop
  | .list _ _ items => ∀ item ∈ items, item.Tidy
  | .table _ grid => grid.Tidy
  | .paragraph _ content => content.Tidy
  | _ => True

namespace Markdown

theorem tidy_readGrid (number : Nat) {headers : List Text} (body : List Text)
    (headed : headers ≠ []) : (readGrid number headers body).1.Tidy := by
  let styled : List (List (Text × List Span)) :=
    (headers :: (body.map splitRow).map (·.take headers.length)).map (·.map inlineSpans)
  change (gridOf styled).Tidy
  have columns : (gridOf styled).columnCount = headers.length := by
    simp [gridOf, styled, Grid.columnCount]
  refine ⟨?_, ?_, ?_⟩
  · rw [columns]
    exact List.length_pos_iff.mpr headed
  · intro row mem
    rw [columns]
    simp only [gridOf, styled, List.map_cons, List.tail_cons, List.map_map, List.mem_map] at mem
    rcases mem with ⟨line, _, rfl⟩
    simp only [Function.comp_apply, List.length_map, List.length_take]
    exact Nat.min_le_left _ _
  · intro row column
    rw [cellText_gridOf, spans_gridOf]
    cases found : styled[row]?.bind (·[column]?) with
    | none => exact ⟨by simp, by simp, by simp⟩
    | some cell =>
        rcases Option.bind_eq_some_iff.mp found with ⟨cells, cellsFound, cellFound⟩
        rcases List.mem_map.mp (List.mem_of_getElem? cellsFound) with ⟨lines, _, rfl⟩
        rcases List.mem_map.mp (List.mem_of_getElem? cellFound) with ⟨line, _, rfl⟩
        exact tidy_inlineSpans line

/-! ## Blocks -/

theorem tidy_readFence (diagramLanguages : List Text) (number : Nat) (line : Text)
    (after : List Text) : (readFence diagramLanguages number line after).block.Tidy := by
  unfold readFence
  split
  · exact tidy_inlineSpans _
  · dsimp only
    split <;> trivial

theorem tidy_readTable (number : Nat) (line : Text) (after : List Text) :
    (readTable number line after).block.Tidy := by
  unfold readTable
  dsimp only
  split
  · split
    · exact tidy_inlineSpans _
    · rename_i headed
      split
      · exact tidy_inlineSpans _
      · exact tidy_readGrid number _ (by simpa using headed)
  · exact tidy_inlineSpans _

theorem tidy_readList (line : Text) (after : List Text) : (readList line after).block.Tidy := by
  intro item mem
  rcases List.mem_map.mp mem with ⟨entry, _, rfl⟩
  exact tidy_inlineSpans entry.2

theorem tidy_readBlock (diagramLanguages : List Text) (number : Nat) (line : Text)
    (after : List Text) : (readBlock diagramLanguages number line after).block.Tidy := by
  unfold readBlock
  dsimp only
  split
  · exact tidy_readFence diagramLanguages number line after
  · split
    · exact tidy_readTable number line after
    · split
      · trivial
      · split
        · exact tidy_readList line after
        · split
          · trivial
          · exact tidy_inlineSpans _

theorem tidy_readLines {diagramLanguages : List Text} {number skip : Nat} {lines : List Text} :
    ∀ reading ∈ readLines diagramLanguages number skip lines, reading.block.Tidy := by
  induction lines generalizing number skip with
  | nil => exact fun _ mem => absurd mem List.not_mem_nil
  | cons line after step =>
      cases skip with
      | succ skip => exact step
      | zero =>
          simp only [readLines]
          split
          · exact step
          · intro reading mem
            rcases List.mem_cons.mp mem with rfl | mem
            · exact tidy_readBlock diagramLanguages number line after
            · exact step reading mem

/-- The texts of everything that is read from a document are tidy. -/
theorem tidy_classify {diagramLanguages : List Text} {markdown : Text} :
    ∀ block ∈ classify diagramLanguages markdown, block.Tidy := by
  intro block mem
  rcases List.mem_map.mp mem with ⟨reading, readingMem, rfl⟩
  exact tidy_readLines reading readingMem

end Markdown

end DocBinder
