import DocBinder.Proofs.Markdown.Placed

/-!
# The headings of a document

No table and no list takes a line that begins with number signs, so each such line outside of closed
fences is a heading, and the headings of a document can be read line by line, with their levels and
their texts. They stay what they are when lines change in a way that keeps fences and the number signs
in front.
-/

namespace DocBinder

/-- The level of a heading. -/
def Block.level? : Block → Option Int
  | .heading _ level _ => some level
  | _ => none

/-- The level and the text of a heading. -/
def Block.heading? : Block → Option (Int × Text)
  | .heading _ level text => some (level, text)
  | _ => none

theorem Block.level?_eq (block : Block) : block.level? = block.heading?.map (·.1) := by
  cases block <;> rfl

namespace Markdown

/-- The headings of a document in order, each as the number of its line and its level. -/
def headings (diagramLanguages : List Text) (markdown : Text) : List (Nat × Int) :=
  (placed diagramLanguages markdown).filterMap fun place =>
    place.block.level?.map (place.number, ·)

/-- The level of the heading that a line is outside of fences. -/
def level? (line : Text) : Option Int :=
  if ['#'].isPrefixOf (Text.strip line) then
    some ((Text.strip line).takeWhile (· == '#')).length
  else none

/-- The level and the text of the heading that a line is outside of fences. -/
def headingOf? (line : Text) : Option (Int × Text) :=
  (level? line).map fun level => (level, Text.strip ((Text.strip line).drop level.toNat))

/-- The headings of a document in order, each as the number of its line, its level and its text. -/
def outline (diagramLanguages : List Text) (markdown : Text) : List (Nat × Int × Text) :=
  (placed diagramLanguages markdown).filterMap fun place =>
    place.block.heading?.map (place.number, ·)

/-- The entry of the outline among stretches. -/
def Stretch.outlined? : Stretch → Option (Nat × Int × Text)
  | .line number text => (headingOf? text).map (number, ·)
  | .fence .. => none

/-- The heading among stretches. -/
def Stretch.heading? : Stretch → Option (Nat × Int)
  | .line number text => (level? text).map (number, ·)
  | .fence .. => none

variable {diagramLanguages : List Text} {number : Nat} {line : Text} {after : List Text}

theorem map_snd_headings (diagramLanguages : List Text) (markdown : Text) :
    (headings diagramLanguages markdown).map (·.2) =
      (classify diagramLanguages markdown).filterMap Block.level? := by
  rw [headings, ← map_block_placed, List.map_filterMap, List.filterMap_map]
  simp [Function.comp_def]

theorem map_snd_outline (diagramLanguages : List Text) (markdown : Text) :
    (outline diagramLanguages markdown).map (·.2) =
      (classify diagramLanguages markdown).filterMap Block.heading? := by
  rw [outline, ← map_block_placed, List.map_filterMap, List.filterMap_map]
  simp [Function.comp_def]

/-! ## Headings line by line -/

theorem level?_of_head? (other : (Text.strip line).head? ≠ some '#') : level? line = none := by
  rw [level?, if_neg]
  intro isHeading
  rcases List.isPrefixOf_iff_prefix.mp isHeading with ⟨rest, same⟩
  rw [← same] at other
  exact other rfl

theorem Joins.level? (joins : Joins line) : level? line = none := by
  apply level?_of_head?
  rcases joins with ⟨rest, same⟩ | isBlank | isItem
  · rw [← same]
    exact fun isSign => absurd (Option.some.inj isSign) (by decide)
  · rw [List.isEmpty_iff.mp isBlank]
    decide
  · rcases Option.isSome_iff_exists.mp isItem with ⟨text, isItem⟩
    rcases exists_mark_of_item? isItem with ⟨mark, marked, nonempty, areMarks⟩
    have free : '#' ∉ mark := not_mem_of_isMark (by decide) areMarks
    rw [marked, List.head?_append_of_ne_nil _ nonempty]
    exact fun isHead => free (List.mem_of_mem_head? isHead)

theorem Joins.headingOf? (joins : Joins line) : headingOf? line = none := by
  rw [Markdown.headingOf?, joins.level?]
  rfl

theorem heading?_readTable : (readTable number line after).block.heading? = none := by
  rcases readTable_cases number line after with ⟨source, grid, isTable⟩ | isParagraph
  · rw [isTable]
    rfl
  · rw [isParagraph]
    rfl

theorem heading?_readBlock (unclosed : opensFence line = true → fenceBody? after = none) :
    (readBlock diagramLanguages number line after).block.heading? = headingOf? line := by
  cases opens : opensFence line with
  | true =>
      rw [readBlock_of_unclosed opens (unclosed opens)]
      rcases List.isPrefixOf_iff_prefix.mp opens with ⟨rest, same⟩
      have notHeading : level? line = none := by
        apply level?_of_head?
        rw [← same]
        exact fun isSign => absurd (Option.some.inj isSign) (by decide)
      rw [headingOf?, notHeading]
      rfl
  | false =>
      rw [readBlock, opens, if_neg Bool.false_ne_true]
      split
      · rename_i isRow
        have joins : Joins line := .inl (List.isPrefixOf_iff_prefix.mp isRow)
        rw [heading?_readTable, joins.headingOf?]
      · rw [headingOf?, level?]
        split
        · rfl
        · split
          · rfl
          · split <;> rfl

theorem agree_outline (diagramLanguages : List Text) :
    Agree diagramLanguages
      (fun place => (place.block.heading?.map (place.number, ·)).toList)
      fun stretch => stretch.outlined?.toList where
  blank number line isBlank := by
    have joins : Joins line := .inr (.inl isBlank)
    rw [Stretch.outlined?, joins.headingOf?]
    rfl
  fence number line after body closing opens closes := by
    have isFence : (readBlock diagramLanguages number line after).block.heading? = none := by
      rw [readBlock, if_pos opens, readFence, closes]
      dsimp only
      split <;> rfl
    rw [isFence]
    rfl
  lines number line after _ unclosed := by
    have others : ((after.take (readBlock diagramLanguages number line after).further).zipIdx
        (number + 1)).flatMap
          (fun place => (Stretch.line place.2 place.1).outlined?.toList) = [] := by
      rw [List.flatMap_eq_nil_iff]
      intro place mem
      have joins := joins_further diagramLanguages number unclosed place.1
        (List.fst_mem_of_mem_zipIdx mem)
      rw [Stretch.outlined?, joins.headingOf?]
      rfl
    dsimp only
    rw [heading?_readBlock unclosed, List.zipIdx_cons, List.flatMap_cons, others, List.append_nil]
    rfl

/-- The headings of a document are the lines outside closed fences that begin with number signs. -/
theorem outline_eq (diagramLanguages : List Text) (markdown : Text) :
    outline diagramLanguages markdown =
      (stretches 1 0 (documentLines markdown)).filterMap Stretch.outlined? := by
  rw [outline, List.filterMap_eq_flatMap_toList, List.filterMap_eq_flatMap_toList]
  exact (agree_outline diagramLanguages).flatMap_placedLines 1 0 (documentLines markdown)

theorem headings_eq_map (diagramLanguages : List Text) (markdown : Text) :
    headings diagramLanguages markdown =
      (outline diagramLanguages markdown).map fun entry => (entry.1, entry.2.1) := by
  rw [headings, outline, List.map_filterMap]
  simp [Block.level?_eq, Function.comp_def]

/-- The levels of the headings can be read line by line. -/
theorem headings_eq (diagramLanguages : List Text) (markdown : Text) :
    headings diagramLanguages markdown =
      (stretches 1 0 (documentLines markdown)).filterMap Stretch.heading? := by
  rw [headings_eq_map, outline_eq, List.map_filterMap]
  refine List.filterMap_congr fun stretch _ => ?_
  cases stretch with
  | line number text => simp [Stretch.outlined?, Stretch.heading?, headingOf?, Function.comp_def]
  | fence number opening body closing => rfl

/-! ## Lines that change -/

theorem opensFence_iff : opensFence line = true ↔ List.replicate 3 '`' <+: Text.trimStart line := by
  rw [opensFence, List.isPrefixOf_iff_prefix]
  apply Text.isPrefix_strip_iff
  intro character mem
  rw [List.eq_of_mem_replicate (n := 3) mem]
  decide

theorem closesFence_of_mem {character : Char} (mem : character ∈ line) (other : character ≠ '`')
    (shows : Text.isBlank character = false) : closesFence line = false := by
  rw [closesFence, beq_eq_false_iff_ne]
  intro closes
  rcases Text.exists_strip line with ⟨front, back, split, frontBlank, backBlank⟩
  rw [split, closes] at mem
  rcases List.mem_append.mp mem with mem | mem
  · rw [frontBlank character mem] at shows
    cases shows
  · rcases List.mem_append.mp mem with mem | mem
    · exact other (List.eq_of_mem_replicate (n := 3) mem)
    · rw [backBlank character mem] at shows
      cases shows

theorem level?_eq_some_iff {level : Int} :
    level? line = some level ↔ ∃ count : Nat, level = (count + 1 : Nat) ∧
      List.replicate (count + 1) '#' <+: Text.trimStart line ∧
        ¬ List.replicate (count + 2) '#' <+: Text.trimStart line := by
  have signs (count : Nat) : List.replicate count '#' <+: Text.trimStart line ↔
      List.replicate count '#' <+: Text.strip line := by
    apply (Text.isPrefix_strip_iff _).symm
    intro character mem
    rw [List.eq_of_mem_replicate mem]
    decide
  simp only [signs, ← Text.length_takeWhile_eq_iff]
  have begins : ['#'].isPrefixOf (Text.strip line) = true ↔
      (Text.strip line).takeWhile (· == '#') ≠ [] := by
    cases Text.strip line with
    | nil => simp
    | cons first rest =>
        by_cases same : first = '#'
        · simp [same]
        · simp [same, Ne.symm same]
  rw [level?]
  split
  · rename_i isHeading
    rcases List.exists_cons_of_ne_nil (begins.mp isHeading) with ⟨sign, further, isRun⟩
    rw [isRun, List.length_cons]
    constructor
    · intro same
      exact ⟨further.length, (Option.some.inj same).symm, rfl⟩
    · rintro ⟨count, rfl, same⟩
      rw [same]
  · rename_i notHeading
    constructor
    · intro same
      cases same
    · rintro ⟨count, _, same⟩
      apply absurd _ notHeading
      apply begins.mpr
      rw [← List.length_pos_iff, same]
      exact Nat.succ_pos count

/-- A line changes and opens and closes the same fences, and it stays a heading of the same level. -/
structure Steady (old new : Text) : Prop where
  opens : opensFence new = opensFence old
  closes : closesFence new = closesFence old
  keeps : ∀ level, level? old = some level → level? new = some level

variable {old new : List Text}

/-- Fences keep their length. -/
theorem fenceBody?_of_steady (steady : List.Forall₂ Steady old new) :
    (fenceBody? new).map (·.1.length) = (fenceBody? old).map (·.1.length) := by
  induction steady with
  | nil => rfl
  | cons head tail step =>
      rw [fenceBody?, fenceBody?, head.closes]
      split
      · rfl
      · simp only [Option.map_map, Function.comp_def, List.length_cons]
        have longer := congrArg (Option.map (· + 1)) step
        simpa only [Option.map_map, Function.comp_def] using longer

/-- The induction goes from line to line, and past the whole of a fence on both sides. -/
theorem sublist_stretches (steady : List.Forall₂ Steady old new) (number skip : Nat) :
    ((stretches number skip old).filterMap Stretch.heading?).Sublist
      ((stretches number skip new).filterMap Stretch.heading?) := by
  induction steady generalizing number skip with
  | nil => exact List.Sublist.refl _
  | cons head tail step =>
      rename_i line other after further
      cases skip with
      | succ skip => exact step (number + 1) skip
      | zero =>
          have sameLength := fenceBody?_of_steady tail
          rcases fence_cases line after with ⟨body, closing, opens, closes⟩ | unclosed
          · rw [closes] at sameLength
            rcases Option.map_eq_some_iff.mp sameLength with ⟨⟨newBody, newClosing⟩, newCloses, same⟩
            dsimp only at same
            rw [stretches_of_closed opens closes,
              stretches_of_closed (head.opens.trans opens) newCloses, same]
            exact step (number + 1) (body.length + 1)
          · have newUnclosed : opensFence other = true → fenceBody? further = none := by
              intro opens
              rw [unclosed (head.opens.symm.trans opens)] at sameLength
              exact Option.map_eq_none_iff.mp sameLength
            rw [stretches_of_unclosed unclosed, stretches_of_unclosed newUnclosed,
              List.filterMap_cons, List.filterMap_cons]
            cases isHeading : level? line with
            | none =>
                simp only [Stretch.heading?, isHeading, Option.map_none]
                apply (step (number + 1) 0).trans
                split
                · exact List.Sublist.refl _
                · exact List.sublist_cons_self _ _
            | some level =>
                simp only [Stretch.heading?, isHeading, head.keeps level isHeading, Option.map_some]
                exact (step (number + 1) 0).cons_cons _

/-- Where lines change steadily, all headings stay, on the same lines and of the same levels. -/
theorem sublist_headings (diagramLanguages : List Text) {before behind : Text}
    (steady : List.Forall₂ Steady (documentLines before) (documentLines behind)) :
    (headings diagramLanguages before).Sublist (headings diagramLanguages behind) := by
  rw [headings_eq, headings_eq]
  exact sublist_stretches steady 1 0

end Markdown

end DocBinder
