import DocBinder.Markdown.Classify
import DocBinder.Proofs.Text.Lines

/-!
# The lines of blocks

A block takes the line that it begins with and some lines after it, and reading goes on behind
these. So the lines of the blocks, put together, are the lines of the document. Only blanks around a
line and lines of blanks are lost: every reader keeps stripped lines or whole ones, and a list skips
the blank lines between its entries.
-/

namespace DocBinder

/-! ## What lines show -/

/-- What the lines show without the blanks around it, for all lines that show something. -/
def shownLines (lines : List Text) : List Text :=
  (lines.map Text.strip).filter (! ·.isEmpty)

theorem shownLines_append (first second : List Text) :
    shownLines (first ++ second) = shownLines first ++ shownLines second := by
  simp [shownLines]

theorem shownLines_flatMap {α : Type} (parts : List α) (lines : α → List Text) :
    shownLines (parts.flatMap lines) = parts.flatMap fun part => shownLines (lines part) := by
  simp [shownLines, List.map_flatMap, List.filter_flatMap]

theorem shownLines_cons_of_blank {line : Text} (isBlank : (Text.strip line).isEmpty = true)
    (rest : List Text) : shownLines (line :: rest) = shownLines rest := by
  simp [shownLines, isBlank]

theorem shownLines_cons_of_shown {line : Text} (shows : (Text.strip line).isEmpty = false)
    (rest : List Text) : shownLines (line :: rest) = Text.strip line :: shownLines rest := by
  simp [shownLines, shows]

theorem shownLines_shownLines (lines : List Text) :
    shownLines (shownLines lines) = shownLines lines := by
  induction lines with
  | nil => rfl
  | cons line rest step =>
      cases shows : (Text.strip line).isEmpty with
      | true => rw [shownLines_cons_of_blank shows, step]
      | false =>
          have showsAgain : (Text.strip (Text.strip line)).isEmpty = false := by
            rw [Text.strip_strip, shows]
          rw [shownLines_cons_of_shown shows, shownLines_cons_of_shown showsAgain,
            Text.strip_strip, step]

theorem shownLines_map_strip (lines : List Text) :
    shownLines (lines.map Text.strip) = shownLines lines := by
  simp [shownLines, Function.comp_def, Text.strip_strip]

theorem not_mem_of_mem_shownLines {lines : List Text} {character : Char}
    (free : ∀ line ∈ lines, character ∉ line) : ∀ line ∈ shownLines lines, character ∉ line := by
  intro line mem inLine
  rcases List.mem_map.mp (List.mem_filter.mp mem).1 with ⟨whole, wholeMem, rfl⟩
  exact free whole wholeMem ((Text.strip_sublist whole).subset inLine)

/-- What the lines of a text show. -/
def Text.content (text : Text) : List Text :=
  shownLines (lines text)

theorem Text.content_joinLines {pieces : List Text} (free : ∀ piece ∈ pieces, '\n' ∉ piece) :
    content (joinLines pieces) = shownLines pieces := by
  cases pieces with
  | nil => rfl
  | cons piece rest => rw [content, lines_joinLines (List.cons_ne_nil _ _) free]

theorem Text.content_strip {line : Text} (free : '\n' ∉ line) :
    content (strip line) = shownLines [line] := by
  have stripped : '\n' ∉ strip line := fun mem => free ((strip_sublist line).subset mem)
  rw [content, lines, splitOn_of_not_mem stripped]
  exact shownLines_map_strip [line]

namespace Markdown

/-! ## One block -/

/-- A reading holds the line that it begins with and the lines after it that it takes. -/
def Reading.Holds (reading : Reading) (line : Text) (after : List Text) : Prop :=
  reading.block.source.content = shownLines (line :: after.take reading.further)

theorem fenceBody?_eq_some {lines body : List Text} {closing : Text}
    (closes : fenceBody? lines = some (body, closing)) :
    ∃ rest, lines = body ++ closing :: rest ∧ (∀ line ∈ body, closesFence line = false) ∧
      closesFence closing = true := by
  induction lines generalizing body with
  | nil => cases closes
  | cons line rest step =>
      rw [fenceBody?] at closes
      split at closes
      · rename_i isClosing
        cases closes
        exact ⟨rest, rfl, fun _ mem => absurd mem List.not_mem_nil, isClosing⟩
      · rename_i isInside
        rcases Option.map_eq_some_iff.mp closes with ⟨⟨inner, last⟩, isInner, same⟩
        cases same
        rcases step isInner with ⟨behind, rfl, inside, isClosing⟩
        refine ⟨behind, rfl, ?_, isClosing⟩
        intro other mem
        rcases List.mem_cons.mp mem with rfl | mem
        · exact Bool.eq_false_iff.mpr isInside
        · exact inside other mem

section Block

variable {line : Text} {after : List Text}

theorem not_mem_of_mem_taken {character : Char}
    (free : ∀ other ∈ line :: after, character ∉ other) (count : Nat) :
    ∀ other ∈ line :: after.take count, character ∉ other := by
  intro other mem
  apply free other
  rcases List.mem_cons.mp mem with rfl | mem
  · exact List.mem_cons_self
  · exact List.mem_cons_of_mem _ (List.mem_of_mem_take mem)

theorem holds_strip {reading : Reading} (free : '\n' ∉ line)
    (keeps : reading.block.source = Text.strip line) (alone : reading.further = 0) :
    reading.Holds line after := by
  rw [Reading.Holds, keeps, alone, List.take_zero]
  exact Text.content_strip free

theorem holds_readFence (diagramLanguages : List Text) (number : Nat)
    (free : ∀ other ∈ line :: after, '\n' ∉ other) :
    (readFence diagramLanguages number line after).Holds line after := by
  rw [readFence]
  split
  · exact holds_strip (free line List.mem_cons_self) rfl rfl
  · rename_i body closing closes
    rcases fenceBody?_eq_some closes with ⟨rest, rfl, _⟩
    have source (block : Block)
        (keeps : block.source = Text.joinLines (line :: body ++ [closing])) :
        Reading.Holds ⟨block, [], body.length + 1⟩ line (body ++ closing :: rest) := by
      have taken : (body ++ closing :: rest).take (body.length + 1) = body ++ [closing] := by
        rw [← List.singleton_append, ← List.append_assoc]
        exact List.take_left' (by simp)
      have content := Text.content_joinLines (not_mem_of_mem_taken free (body.length + 1))
      rw [taken] at content
      rw [Reading.Holds, keeps, taken]
      exact content
    dsimp only
    split
    · exact source _ rfl
    · exact source _ rfl

/-- The lines of a table are stripped before they are told from what follows. -/
theorem content_stripped (isRow : Text → Bool) (free : ∀ other ∈ line :: after, '\n' ∉ other) :
    let rows := (after.map Text.strip).takeWhile isRow
    Text.content (Text.joinLines (Text.strip line :: rows)) =
      shownLines (line :: after.take rows.length) := by
  intro rows
  have taken : rows = (after.take rows.length).map Text.strip := by
    rw [List.map_take]
    exact List.prefix_iff_eq_take.mp (List.takeWhile_prefix isRow)
  have stripped : Text.strip line :: rows =
      (line :: after.take rows.length).map Text.strip := congrArg (Text.strip line :: ·) taken
  rw [stripped, Text.content_joinLines, shownLines_map_strip]
  intro piece mem lineFeed
  rcases List.mem_map.mp mem with ⟨other, otherMem, rfl⟩
  exact not_mem_of_mem_taken free _ other otherMem ((Text.strip_sublist other).subset lineFeed)

theorem holds_readTable (number : Nat) (free : ∀ other ∈ line :: after, '\n' ∉ other) :
    (readTable number line after).Holds line after := by
  have own := free line List.mem_cons_self
  rw [readTable]
  dsimp only
  split
  · split
    · exact holds_strip own rfl rfl
    · split
      · exact holds_strip own rfl rfl
      · exact content_stripped (['|'].isPrefixOf ·) free
  · exact holds_strip own rfl rfl

theorem shownLines_listItems (lines : List Text) :
    shownLines (lines.take (listItems lines).2) = (listItems lines).1.map (·.1) := by
  induction lines with
  | nil => rfl
  | cons line rest step =>
      rw [listItems]
      dsimp only
      split
      · rename_i isBlank
        split
        · rw [List.take_succ_cons, shownLines_cons_of_blank isBlank, step]
        · rfl
      · rename_i shows
        split
        · rfl
        · rw [List.take_succ_cons, shownLines_cons_of_shown (by simpa using shows), step]
          rfl

theorem listItems_cons_of_item (after : List Text)
    (isItem : (item? (Text.strip line)).isSome = true) :
    ∃ items count, listItems (line :: after) = (items, count + 1) := by
  rw [listItems]
  dsimp only
  split
  · rename_i isBlank
    rw [List.isEmpty_iff.mp isBlank] at isItem
    cases isItem
  · split
    · rename_i noItem
      rw [noItem] at isItem
      cases isItem
    · exact ⟨_, _, rfl⟩

theorem holds_readList (isItem : (item? (Text.strip line)).isSome = true)
    (free : ∀ other ∈ line :: after, '\n' ∉ other) : (readList line after).Holds line after := by
  rcases listItems_cons_of_item after isItem with ⟨items, count, found⟩
  have shown := shownLines_listItems (line :: after)
  rw [found, List.take_succ_cons] at shown
  simp only [Reading.Holds, readList, found, Block.source, Nat.add_sub_cancel]
  rw [← shown, Text.content_joinLines, shownLines_shownLines]
  exact not_mem_of_mem_shownLines (not_mem_of_mem_taken free count)

theorem holds_readBlock (diagramLanguages : List Text) (number : Nat)
    (free : ∀ other ∈ line :: after, '\n' ∉ other) :
    (readBlock diagramLanguages number line after).Holds line after := by
  have own := free line List.mem_cons_self
  rw [readBlock]
  split
  · exact holds_readFence diagramLanguages number free
  · split
    · exact holds_readTable number free
    · split
      · exact holds_strip own rfl rfl
      · split
        · rename_i isItem
          exact holds_readList isItem free
        · split
          · exact holds_strip own rfl rfl
          · exact holds_strip own rfl rfl

end Block

/-! ## All blocks -/

/-- Reading goes on where the last block ends. -/
theorem content_readLines (diagramLanguages : List Text) (number skip : Nat) {lines : List Text}
    (free : ∀ line ∈ lines, '\n' ∉ line) :
    (readLines diagramLanguages number skip lines).flatMap (·.block.source.content) =
      shownLines (lines.drop skip) := by
  induction lines generalizing number skip with
  | nil => simp [readLines, shownLines]
  | cons line after step =>
      have further := fun number skip =>
        step number skip fun other mem => free other (List.mem_cons_of_mem _ mem)
      cases skip with
      | succ skip => exact further (number + 1) skip
      | zero =>
          simp only [readLines]
          split
          · rename_i isBlank
            rw [further, List.drop_zero, List.drop_zero, shownLines_cons_of_blank isBlank]
          · have holds := holds_readBlock diagramLanguages number free
            rw [Reading.Holds] at holds
            rw [List.flatMap_cons, further, holds, ← shownLines_append, List.cons_append,
              List.take_append_drop, List.drop_zero]

/-- Whatever is read, however malformed: what the lines of the blocks show, one block after another,
is what the lines of the document show, with nothing lost, repeated or moved. -/
theorem content_classify (diagramLanguages : List Text) (markdown : Text) :
    (classify diagramLanguages markdown).flatMap (·.source.content) =
      (Text.normalizeNewlines markdown).content := by
  rw [classify, readings, documentLines, List.flatMap_map, Text.content, Text.lines]
  exact content_readLines diagramLanguages 1 0 fun line mem => Text.not_mem_of_mem_splitOn mem

end Markdown

end DocBinder
