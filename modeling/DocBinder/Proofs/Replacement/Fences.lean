import DocBinder.Proofs.Markdown.Placed
import DocBinder.Proofs.Replacement.Untouched

/-!
# The fences of a document

Fences are found twice: when a document is cut into segments, line by line, and when its blocks are
read, where a table or a list takes many lines at once and lines that hold no proper block become
paragraphs. Both find the same fences.
-/

namespace DocBinder

namespace Markdown

/-- A closed fence: its language, its body, and its lines as they are written. -/
structure Fence where
  language : Option Text
  body : Text
  source : Text
deriving DecidableEq, Repr

/-- The fence that an opening line, the lines up to a closing one, and the closing one make. -/
def fenceOf (line : Text) (body : List Text) (closing : Text) : Fence :=
  ⟨fenceLanguage? line, Text.joinLines body, Text.joinLines (line :: body ++ [closing])⟩

/-- The block that a fence is read as. -/
def Fence.block (diagramLanguages : List Text) (fence : Fence) : Block :=
  if isDiagram diagramLanguages fence.language then
    .diagram fence.source fence.language fence.body
  else .code fence.source fence.language fence.body

/-- The fence among stretches. -/
def Stretch.fence? : Stretch → Option Fence
  | .line .. => none
  | .fence _ opening body closing => some (fenceOf opening body closing)

end Markdown

/-- The fence that a block was read from: that of code, or of a diagram without a token. -/
def Block.fence? : Block → Option Markdown.Fence
  | .code source language text => some ⟨language, text, source⟩
  | .diagram source language text => some ⟨language, text, source⟩
  | _ => none

/-- The fence that a segment holds. -/
def Placeholder.Segment.fence? : Segment → Option Markdown.Fence
  | .text _ => none
  | .fence language body source => some ⟨language, body, source⟩

namespace Markdown

@[simp] theorem fence?_block (diagramLanguages : List Text) (fence : Fence) :
    (fence.block diagramLanguages).fence? = some fence := by
  rw [Fence.block]
  split <;> rfl

/-! ## The fences of blocks -/

variable {diagramLanguages : List Text} {number : Nat} {line : Text} {after : List Text}

theorem readBlock_of_closed {body : List Text} {closing : Text} (opens : opensFence line = true)
    (closes : fenceBody? after = some (body, closing)) :
    (readBlock diagramLanguages number line after).block =
      (fenceOf line body closing).block diagramLanguages := by
  rw [readBlock, if_pos opens, readFence, closes]
  rfl

theorem fence?_readTable : (readTable number line after).block.fence? = none := by
  rcases readTable_cases number line after with ⟨source, grid, isTable⟩ | isParagraph
  · rw [isTable]
    rfl
  · rw [isParagraph]
    rfl

/-- Only a closed fence is read as one. -/
theorem fence?_readBlock (unclosed : opensFence line = true → fenceBody? after = none) :
    (readBlock diagramLanguages number line after).block.fence? = none := by
  cases opens : opensFence line with
  | true =>
      rw [readBlock_of_unclosed opens (unclosed opens)]
      rfl
  | false =>
      rw [readBlock, opens, if_neg Bool.false_ne_true]
      split
      · exact fence?_readTable
      · split
        · rfl
        · split
          · rfl
          · split <;> rfl

theorem agree_fences (diagramLanguages : List Text) :
    Agree diagramLanguages (fun place => [place.block].filter (·.fence?.isSome))
      fun stretch => (stretch.fence?.map (Fence.block diagramLanguages)).toList where
  blank _ _ _ := rfl
  fence number line after body closing opens closes := by
    rw [readBlock_of_closed opens closes]
    simp [Stretch.fence?]
  lines number line after _ unclosed := by
    simp [fence?_readBlock unclosed, Stretch.fence?]

/-- The blocks that are read from fences are those of the closed fences of the document. -/
theorem fences_classify (diagramLanguages : List Text) (markdown : Text) :
    (classify diagramLanguages markdown).filter (·.fence?.isSome) =
      ((stretches 1 0 (documentLines markdown)).filterMap Stretch.fence?).map
        (Fence.block diagramLanguages) := by
  have agree := (agree_fences diagramLanguages).flatMap_placedLines 1 0 (documentLines markdown)
  rw [← map_block_placed, List.map_eq_flatMap, List.filter_flatMap, List.map_filterMap,
    List.filterMap_eq_flatMap_toList]
  exact agree

end Markdown

namespace Placeholder

open Markdown

/-! ## The fences of segments -/

theorem filterMap_addLine (line : Text) (parts : List (List Text ⊕ Segment)) :
    (addLine line parts).filterMap (fun part => (ofPart part).fence?) =
      parts.filterMap fun part => (ofPart part).fence? := by
  unfold addLine
  split <;> rfl

theorem fences_segmentLines (number skip : Nat) (lines : List Text) :
    (segmentLines skip lines).filterMap (fun part => (ofPart part).fence?) =
      (stretches number skip lines).filterMap Stretch.fence? := by
  induction lines generalizing number skip with
  | nil => rfl
  | cons line after step =>
      cases skip with
      | succ skip => exact step _ _
      | zero =>
          rcases fence_cases line after with ⟨body, closing, opens, closes⟩ | unclosed
          · rw [stretches_of_closed opens closes, segmentLines, if_pos opens, closes]
            simp only [List.filterMap_cons, step (number + 1)]
            rfl
          · have alone : (if opensFence line then fenceBody? after else none) = none := by
              simpa using unclosed
            rw [stretches_of_unclosed unclosed, segmentLines, alone]
            simp only [filterMap_addLine, step (number + 1)]
            rfl

theorem fences_segments (number : Nat) (markdown : Text) :
    (segments markdown).filterMap Segment.fence? =
      (stretches number 0 (Text.lines markdown)).filterMap Stretch.fence? := by
  rw [segments_eq_map, List.filterMap_map]
  exact fences_segmentLines number 0 (Text.lines markdown)

/-- The blocks that are read from fences are those of the segments that hold fences. -/
theorem filter_classify (diagramLanguages : List Text) {markdown : Text}
    (noReturn : '\r' ∉ markdown) :
    (classify diagramLanguages markdown).filter (·.fence?.isSome) =
      ((segments markdown).filterMap Segment.fence?).map (Fence.block diagramLanguages) := by
  rw [fences_classify, fences_segments 1, documentLines, Text.normalizeNewlines_of_not_mem noReturn]

/-! ## The sources of segments -/

/-- Lines that are joined to one text can stand before others that are. -/
theorem joinLines_joined {own rest texts : List Text} (nonempty : own ≠ [])
    (same : Text.joinLines texts = Text.joinLines rest) (ends : texts = [] ↔ rest = []) :
    Text.joinLines (Text.joinLines own :: texts) = Text.joinLines (own ++ rest) := by
  by_cases isLast : rest = []
  · rw [ends.mpr isLast, isLast, List.append_nil]
    rfl
  · have more : texts ≠ [] := fun isEmpty => isLast (ends.mp isEmpty)
    rw [Text.joinLines_cons _ more, same, Text.joinLines_append nonempty isLast]

theorem Parted.joined {lines : List Text} {parts : List (List Text ⊕ Segment)}
    (parted : Parted lines parts) :
    Text.joinLines (parts.map fun part => (ofPart part).source) = Text.joinLines lines ∧
      (parts = [] ↔ lines = []) := by
  induction parted with
  | done => simp
  | text nonempty following step =>
      refine ⟨?_, by simp [nonempty]⟩
      apply joinLines_joined nonempty step.1
      simpa using step.2
  | fence opens inside closes following step =>
      rename_i line closing body rest parts
      have whole : line :: (body ++ closing :: rest) = (line :: body ++ [closing]) ++ rest := by
        simp
      refine ⟨?_, by simp⟩
      rw [whole]
      apply joinLines_joined (by simp) step.1
      simpa using step.2

/-- The segments of a document, put together again, are the document. -/
theorem joinLines_segments (markdown : Text) :
    Text.joinLines ((segments markdown).map Segment.source) = markdown := by
  rw [segments_eq_map, List.map_map]
  have joined := (parted_segmentLines 0 (Text.lines markdown)).joined.1
  rwa [List.drop_zero, Text.joinLines_lines] at joined

/-- Cutting a document into segments loses nothing, and the fences among the segments are those that
the code blocks and the diagrams without tokens are read from, one for one and in the same order. -/
theorem segments_classify (diagramLanguages : List Text) {markdown : Text}
    (noReturn : '\r' ∉ markdown) :
    Text.joinLines ((segments markdown).map Segment.source) = markdown ∧
      (segments markdown).filterMap Segment.fence? =
        (classify diagramLanguages markdown).filterMap Block.fence? := by
  refine ⟨joinLines_segments markdown, ?_⟩
  have fences := congrArg (List.filterMap Block.fence?) (filter_classify diagramLanguages noReturn)
  rw [List.filterMap_map, List.filterMap_filter] at fences
  have same : (Block.fence? ∘ Fence.block diagramLanguages) = some :=
    funext (fence?_block diagramLanguages)
  have all : (fun block : Block => if block.fence?.isSome = true then block.fence? else none) =
      Block.fence? := by
    funext block
    cases block.fence? <;> rfl
  rw [same, List.filterMap_some, all] at fences
  exact fences.symm

/-- A document with a fence behind a table, one that holds an opening line, and one never closed. -/
def fenced : Text :=
  "| a |\n|-|\n| b |\n```Mermaid\nx\n```js\n ``` \n- c\n```\n```\n```py\nd".toList

theorem segments_classify_fenced :
    '\r' ∉ fenced ∧ Text.joinLines ((segments fenced).map Segment.source) = fenced ∧
      (segments fenced).filterMap Segment.fence? =
        (classify defaultDiagramLanguages fenced).filterMap Block.fence? ∧
      (segments fenced).filterMap Segment.fence? =
        [⟨some "Mermaid".toList, "x\n```js".toList, "```Mermaid\nx\n```js\n ``` ".toList⟩,
          ⟨none, [], "```\n```".toList⟩] := by
  have noReturn : '\r' ∉ fenced := by decide +kernel
  have fences := segments_classify defaultDiagramLanguages noReturn
  exact ⟨noReturn, fences.1, fences.2, by decide +kernel⟩

end Placeholder

end DocBinder
