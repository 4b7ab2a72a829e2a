import DocBinder.Proofs.Markdown.ShownCode

/-!
# Where blocks stand

The reader takes a document block by block, and a block may take many lines. What lies outside its
closed fences can also be read line by line: a block outside a fence ends before the next one, so
that both come to the same fences, and to the same about every line outside of them.
-/

namespace DocBinder.Markdown

/-- A block, the number of its first line, and the lines that it takes. -/
structure PlacedBlock where
  number : Nat
  lines : List Text
  block : Block

/-- The blocks of numbered lines where they stand. `skip` counts the lines that the last block still
takes. -/
def placedLines (diagramLanguages : List Text) (number skip : Nat) : List Text → List PlacedBlock
  | [] => []
  | line :: after =>
      match skip with
      | skip + 1 => placedLines diagramLanguages (number + 1) skip after
      | 0 =>
          if (Text.strip line).isEmpty then placedLines diagramLanguages (number + 1) 0 after
          else
            let reading := readBlock diagramLanguages number line after
            ⟨number, line :: after.take reading.further, reading.block⟩
              :: placedLines diagramLanguages (number + 1) reading.further after

/-- The blocks of a document where they stand. -/
def placed (diagramLanguages : List Text) (markdown : Text) : List PlacedBlock :=
  placedLines diagramLanguages 1 0 (documentLines markdown)

/-- A line outside closed fences, or a closed fence, with the number of its first line. -/
inductive Stretch where
  | line (number : Nat) (text : Text)
  | fence (number : Nat) (opening : Text) (body : List Text) (closing : Text)

/-- Numbered lines cut into closed fences and the lines outside of them. -/
def stretches (number skip : Nat) : List Text → List Stretch
  | [] => []
  | line :: after =>
      match skip with
      | skip + 1 => stretches (number + 1) skip after
      | 0 =>
          match if opensFence line then fenceBody? after else none with
          | some (body, closing) =>
              .fence number line body closing :: stretches (number + 1) (body.length + 1) after
          | none => .line number line :: stretches (number + 1) 0 after

variable {diagramLanguages : List Text} {number : Nat} {line : Text} {after : List Text}

theorem map_block_placedLines (diagramLanguages : List Text) (number skip : Nat)
    (lines : List Text) :
    (placedLines diagramLanguages number skip lines).map (·.block) =
      (readLines diagramLanguages number skip lines).map (·.block) := by
  induction lines generalizing number skip with
  | nil => rfl
  | cons line after step =>
      cases skip with
      | succ skip => exact step _ _
      | zero =>
          simp only [placedLines, readLines]
          split
          · exact step _ _
          · simp [step]

theorem map_block_placed (diagramLanguages : List Text) (markdown : Text) :
    (placed diagramLanguages markdown).map (·.block) = classify diagramLanguages markdown :=
  map_block_placedLines diagramLanguages 1 0 (documentLines markdown)

/-! ## Fences -/

/-- A line opens a fence that is closed behind it, or stands outside of closed fences. -/
theorem fence_cases (line : Text) (after : List Text) :
    (∃ body closing, opensFence line = true ∧ fenceBody? after = some (body, closing)) ∨
      (opensFence line = true → fenceBody? after = none) := by
  cases closes : fenceBody? after with
  | none => exact .inr fun _ => rfl
  | some found =>
      cases opens : opensFence line with
      | false => exact .inr nofun
      | true => exact .inl ⟨found.1, found.2, rfl, rfl⟩

theorem stretches_of_closed {body : List Text} {closing : Text} (opens : opensFence line = true)
    (closes : fenceBody? after = some (body, closing)) :
    stretches number 0 (line :: after) =
      .fence number line body closing :: stretches (number + 1) (body.length + 1) after := by
  simp [stretches, opens, closes]

theorem stretches_of_unclosed (unclosed : opensFence line = true → fenceBody? after = none) :
    stretches number 0 (line :: after) = .line number line :: stretches (number + 1) 0 after := by
  have alone : (if opensFence line then fenceBody? after else none) = none := by
    simpa using unclosed
  simp only [stretches, alone]

/-- Lines that open no fence are stretches of their own. -/
theorem stretches_of_unopened {lines : List Text} {count : Nat}
    (unopened : ∀ line ∈ lines.take count, opensFence line = false) :
    stretches number 0 lines =
      ((lines.take count).zipIdx number).map (fun place => .line place.2 place.1)
        ++ stretches number count lines := by
  induction lines generalizing number count with
  | nil => simp [stretches]
  | cons line after step =>
      cases count with
      | zero => rfl
      | succ count =>
          have own := unopened line List.mem_cons_self
          have further : stretches (number + 1) 0 after = _ ++ stretches (number + 1) count after :=
            step fun other mem => unopened other (List.mem_cons_of_mem line mem)
          rw [stretches_of_unclosed (by simp [own]), further]
          rfl

/-- A stretch that is a line is the line of its number. -/
theorem exists_getElem?_of_mem_stretches {place skip : Nat} {lines : List Text} {text : Text}
    (mem : .line place text ∈ stretches number skip lines) :
    ∃ index, place = number + index ∧ lines[index]? = some text := by
  induction lines generalizing number skip with
  | nil => cases mem
  | cons line after step =>
      have further {skip : Nat} (mem : .line place text ∈ stretches (number + 1) skip after) :
          ∃ index, place = number + index ∧ (line :: after)[index]? = some text := by
        rcases step mem with ⟨index, rfl, isLine⟩
        exact ⟨index + 1, by omega, isLine⟩
      cases skip with
      | succ skip => exact further mem
      | zero =>
          rcases fence_cases line after with ⟨body, closing, opens, closes⟩ | unclosed
          · rw [stretches_of_closed opens closes] at mem
            rcases List.mem_cons.mp mem with same | mem
            · cases same
            · exact further mem
          · rw [stretches_of_unclosed unclosed] at mem
            rcases List.mem_cons.mp mem with same | mem
            · cases same
              exact ⟨0, rfl, rfl⟩
            · exact further mem

theorem readTable_cases (number : Nat) (line : Text) (after : List Text) :
    (∃ source grid, (readTable number line after).block = .table source grid) ∨
      (readTable number line after).block = paragraph (Text.strip line) := by
  unfold readTable
  dsimp only
  split
  · split
    · exact .inr rfl
    · split
      · exact .inr rfl
      · exact .inl ⟨_, _, rfl⟩
  · exact .inr rfl

theorem readBlock_of_unclosed (opens : opensFence line = true) (unclosed : fenceBody? after = none) :
    readBlock diagramLanguages number line after =
      degrade number (Text.strip line) .unclosedFence := by
  simp [readBlock, opens, readFence, unclosed]

/-- Where no fence is opened and closed, a block takes only lines that join it. -/
theorem joins_further (diagramLanguages : List Text) (number : Nat)
    (unclosed : opensFence line = true → fenceBody? after = none) :
    ∀ other ∈ after.take (readBlock diagramLanguages number line after).further, Joins other := by
  cases opens : opensFence line with
  | false => exact joins_of_mem_further opens
  | true =>
      rw [readBlock_of_unclosed opens (unclosed opens)]
      exact fun _ mem => absurd mem List.not_mem_nil

/-! ## Blocks and lines -/

/-- What blocks come to agrees with what fences and the lines outside of them come to. -/
structure Agree {α : Type} (diagramLanguages : List Text) (ofBlock : PlacedBlock → List α)
    (ofStretch : Stretch → List α) : Prop where
  blank : ∀ number line, (Text.strip line).isEmpty = true → ofStretch (.line number line) = []
  fence : ∀ number line after body closing, opensFence line = true →
    fenceBody? after = some (body, closing) →
    ofBlock ⟨number, line :: after.take (body.length + 1),
      (readBlock diagramLanguages number line after).block⟩ =
        ofStretch (.fence number line body closing)
  lines : ∀ number line after, (Text.strip line).isEmpty = false →
    (opensFence line = true → fenceBody? after = none) →
    let taken := after.take (readBlock diagramLanguages number line after).further
    ofBlock ⟨number, line :: taken, (readBlock diagramLanguages number line after).block⟩ =
      ((line :: taken).zipIdx number).flatMap fun place => ofStretch (.line place.2 place.1)

variable {α : Type} {ofBlock : PlacedBlock → List α} {ofStretch : Stretch → List α}

/-- The induction goes from line to line; where a block takes further lines, these are passed in one
step on the left and one by one on the right. -/
theorem Agree.flatMap_placedLines (agree : Agree diagramLanguages ofBlock ofStretch)
    (number skip : Nat) (lines : List Text) :
    (placedLines diagramLanguages number skip lines).flatMap ofBlock =
      (stretches number skip lines).flatMap ofStretch := by
  induction lines generalizing number skip with
  | nil => rfl
  | cons line after step =>
      cases skip with
      | succ skip => exact step _ _
      | zero =>
          cases isBlank : (Text.strip line).isEmpty with
          | true =>
              have unopened := opensFence_of_isEmpty isBlank
              rw [stretches_of_unclosed (by simp [unopened]), List.flatMap_cons,
                agree.blank number line isBlank, List.nil_append, ← step]
              simp [placedLines, isBlank]
          | false =>
              simp only [placedLines, isBlank, Bool.false_eq_true, if_false, List.flatMap_cons, step]
              rcases fence_cases line after with ⟨body, closing, opens, closes⟩ | unclosed
              · have takes : (readBlock diagramLanguages number line after).further =
                    body.length + 1 := by
                  simp [readBlock, opens, readFence, closes]
                rw [takes, agree.fence number line after body closing opens closes,
                  stretches_of_closed opens closes, List.flatMap_cons]
              · rw [agree.lines number line after isBlank unclosed, stretches_of_unclosed unclosed,
                  stretches_of_unopened fun other mem =>
                    (joins_further diagramLanguages number unclosed other mem).opensFence]
                simp [List.zipIdx_cons, List.flatMap_map]

end DocBinder.Markdown
