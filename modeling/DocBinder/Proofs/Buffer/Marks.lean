import DocBinder.Proofs.Buffer.View

/-!
# Ranges of a flat text

A flat text holds characters of a buffer in order, some of the buffer or all of it. The range of
index units that two of its characters span begins and ends at units of the buffer, although units
that are no characters may lie between them. Indices grow along a flat text, which is why a search
for an index can halve it.
-/

namespace DocBinder.Docs

theorem bounds_of_mem_unitMarks {index : Nat} {buffer : Buffer} :
    ∀ mark ∈ unitMarks index buffer,
      index ≤ mark.2 ∧ mark.2 + Text.charWidth mark.1 ≤ index + buffer.width := by
  induction buffer generalizing index with
  | nil => exact fun _ mem => absurd mem List.not_mem_nil
  | cons unit rest step =>
      intro mark mem
      rw [Buffer.width_cons]
      cases unit with
      | char character =>
          rcases List.mem_cons.mp mem with rfl | mem
          · simp only [BodyUnit.width]
            omega
          · have bounds := step mark mem
            simp only [BodyUnit.width] at bounds ⊢
            omega
      | _ =>
          have bounds := step mark mem
          simp only [BodyUnit.width] at bounds ⊢
          omega

theorem le_of_mem_unitMarks {index : Nat} {buffer : Buffer} :
    ∀ mark ∈ unitMarks index buffer, index ≤ mark.2 ∧ mark.2 < index + buffer.width := by
  intro mark mem
  have bounds := bounds_of_mem_unitMarks mark mem
  have widthPos := charWidth_pos mark.1
  omega

/-- Along the characters of units, each begins where the one before it has ended, or later. -/
theorem apart_unitMarks (index : Nat) (buffer : Buffer) :
    (unitMarks index buffer).Pairwise fun first second =>
      first.2 + Text.charWidth first.1 ≤ second.2 := by
  induction buffer generalizing index with
  | nil => exact .nil
  | cons unit rest step =>
      cases unit with
      | char character =>
          apply List.Pairwise.cons _ (step _)
          intro mark mem
          exact (bounds_of_mem_unitMarks mark mem).1
      | _ => exact step _

theorem pairwise_unitMarks (index : Nat) (buffer : Buffer) :
    (unitMarks index buffer).Pairwise fun first second => first.2 < second.2 := by
  apply (apart_unitMarks index buffer).imp
  intro first second apart
  have widthPos := charWidth_pos first.1
  omega

/-- The characters outside tables are some of all characters. -/
theorem sublist_topMarks (index : Nat) (inside : Bool) (buffer : Buffer) :
    (topMarks index inside buffer).Sublist (unitMarks index buffer) := by
  induction buffer generalizing index inside with
  | nil => exact .slnil
  | cons unit rest step =>
      cases unit with
      | char character =>
          cases inside
          · exact (step _ false).cons_cons _
          · exact (step _ true).cons _
      | _ => exact step _ _

/-- A character of units stands where the units before it end. -/
theorem exists_of_unitMarks_eq {index place : Nat} {buffer : Buffer} {character : Char}
    {early late : List (Char × Nat)}
    (marks : unitMarks index buffer = early ++ (character, place) :: late) :
    ∃ before after, buffer = before ++ .char character :: after ∧ place = index + before.width ∧
      unitMarks index before = early ∧
      unitMarks (place + Text.charWidth character) after = late := by
  induction buffer generalizing index early with
  | nil => simp [unitMarks] at marks
  | cons unit rest step =>
      have passed (others : unitMarks (index + unit.width) rest = early ++ (character, place) :: late)
          (silent : ∀ units, unitMarks index (unit :: units) = unitMarks (index + unit.width) units) :
          ∃ before after, unit :: rest = before ++ .char character :: after ∧
            place = index + before.width ∧ unitMarks index before = early ∧
            unitMarks (place + Text.charWidth character) after = late := by
        rcases step others with ⟨before, after, rfl, rfl, rfl, rfl⟩
        exact ⟨unit :: before, after, rfl, by rw [Buffer.width_cons]; omega, silent before, rfl⟩
      cases unit with
      | char first =>
          cases early with
          | nil =>
              simp only [unitMarks, List.nil_append, List.cons.injEq, Prod.mk.injEq] at marks
              rcases marks with ⟨⟨rfl, rfl⟩, rfl⟩
              exact ⟨[], rest, rfl, rfl, rfl, rfl⟩
          | cons mark early =>
              simp only [unitMarks, List.cons_append, List.cons.injEq] at marks
              rcases marks with ⟨rfl, marks⟩
              rcases step marks with ⟨before, after, rfl, rfl, rfl, rfl⟩
              refine ⟨.char first :: before, after, rfl, ?_, rfl, rfl⟩
              simp only [Buffer.width_cons, BodyUnit.width]
              omega
      | _ => exact passed marks fun _ => rfl

/-- Two characters in a row of some characters of units have only units between them. -/
theorem exists_of_pair_sublist {index first second : Nat} {buffer : Buffer}
    {opening closing : Char}
    (pair : [(opening, first), (closing, second)].Sublist (unitMarks index buffer)) :
    ∃ before between after : Buffer,
      buffer = before ++ (.char opening :: between ++ [.char closing]) ++ after ∧
      first = index + before.width ∧
      second = first + Text.charWidth opening + between.width := by
  rcases List.cons_sublist_iff.mp pair with ⟨front, back, split, inFront, inBack⟩
  rcases List.append_of_mem inFront with ⟨early, others, rfl⟩
  rcases List.append_of_mem (List.singleton_sublist.mp inBack) with ⟨middle, late, rfl⟩
  rw [List.append_assoc, List.cons_append] at split
  rcases exists_of_unitMarks_eq split with ⟨before, rest, rfl, rfl, _, further⟩
  rw [← List.append_assoc] at further
  rcases exists_of_unitMarks_eq further with ⟨between, after, rfl, rfl, _, _⟩
  exact ⟨before, between, after, by simp, rfl, rfl⟩

namespace FlatText

variable {marks : List (Char × Nat)}

/-- The range of positions that are there is given. -/
theorem exists_realRange {start stop : Nat} (isRange : start < stop)
    (within : stop ≤ marks.length) :
    ∃ first last, (FlatText.mk marks).realRange start stop = .ok (first, last) := by
  have opening := List.getElem?_eq_getElem (l := marks) (i := start) (by omega)
  have closing := List.getElem?_eq_getElem (l := marks) (i := stop - 1) (by omega)
  exact ⟨marks[start].2, marks[stop - 1].2 + Text.charWidth marks[stop - 1].1, by
    rw [realRange, if_pos isRange, opening, closing]⟩

/-- The range of positions of a flat text covers units of the buffer that it was taken from. -/
theorem covers_of_realRange {buffer : Buffer} (some : marks.Sublist (unitMarks 1 buffer))
    {start stop first last : Nat}
    (range : (FlatText.mk marks).realRange start stop = .ok (first, last)) :
    ∃ (opening closing : Char) (before between after : Buffer),
      marks[start]? = .some (opening, first) ∧
      buffer = before ++ (.char opening :: between ++ after) ∧
      (.char opening :: between : Buffer).getLast? = .some (.char closing) ∧
      first = before.width + 1 ∧ last = first + Buffer.width (.char opening :: between) := by
  rw [realRange] at range
  split at range
  · rename_i isRange
    split at range
    · rename_i openingChar firstIndex closingChar lastIndex openingFound closingFound
      cases range
      rcases List.getElem?_eq_some_iff.mp openingFound with ⟨openingBound, openingAt⟩
      rcases List.getElem?_eq_some_iff.mp closingFound with ⟨closingBound, closingAt⟩
      by_cases single : start = stop - 1
      · subst start
        rw [openingFound] at closingFound
        cases closingFound
        rcases List.append_of_mem (some.subset (List.mem_of_getElem? openingFound)) with
          ⟨early, late, split⟩
        rcases exists_of_unitMarks_eq split with ⟨before, after, rfl, rfl, _, _⟩
        refine ⟨openingChar, openingChar, before, [], after, openingFound, by simp, rfl, by omega, ?_⟩
        simp [BodyUnit.width]
      · have pair : [(openingChar, first), (closingChar, lastIndex)].Sublist marks := by
          rw [← List.take_append_drop start marks, List.drop_eq_getElem_cons openingBound, openingAt]
          refine List.Sublist.trans (List.Sublist.cons_cons _ ?_) (List.sublist_append_right ..)
          refine List.singleton_sublist.mpr (List.mem_iff_getElem?.mpr ⟨stop - 1 - (start + 1), ?_⟩)
          rw [List.getElem?_drop, show start + 1 + (stop - 1 - (start + 1)) = stop - 1 by omega,
            closingFound]
        rcases exists_of_pair_sublist (pair.trans some) with
          ⟨before, between, after, rfl, rfl, rfl⟩
        refine ⟨openingChar, closingChar, before, between ++ [.char closingChar], after,
          openingFound, by simp, ?_, by omega, ?_⟩
        · rw [← List.cons_append, List.getLast?_concat]
        · simp only [Buffer.width_cons, Buffer.width_append, Buffer.width_nil, BodyUnit.width]
          omega
    · cases range
  · cases range

theorem covers {buffer : Buffer} (some : marks.Sublist (unitMarks 1 buffer)) {start stop : Nat}
    {range : Nat × Nat} (ranges : (FlatText.mk marks).realRange start stop = .ok range) :
    buffer.Covers range.1 range.2 := by
  rcases covers_of_realRange some ranges with
    ⟨opening, closing, before, between, after, _, split, _, first, last⟩
  exact ⟨before, .char opening :: between, after, split, by simp, first, by omega⟩

/-! ## Searching for an index -/

theorem bisect_eq {offsets : Array Nat} {index boundary low high : Nat}
    (below : ∀ position < boundary, offsets.getD position 0 < index)
    (above : ∀ position, boundary ≤ position → position < high → index ≤ offsets.getD position 0)
    (atLeast : low ≤ boundary) (atMost : boundary ≤ high) :
    bisect offsets index low high = boundary := by
  fun_induction bisect offsets index low high with
  | case1 low high order middle isBelow step =>
      refine step above ?_ atMost
      rcases Nat.lt_or_ge middle boundary with small | large
      · omega
      · have notBelow := above middle large (by omega)
        omega
  | case2 low high order middle notBelow step =>
      refine step (fun position large small => above position large (by omega)) atLeast ?_
      rcases Nat.lt_or_ge middle boundary with small | large
      · exact absurd (below middle small) notBelow
      · exact large
  | case3 low high order => omega

/-- The search for an index leads between the characters before it and those from it on. -/
theorem positionAtOrAfter_append {early late : List (Char × Nat)} {index : Nat}
    (below : ∀ mark ∈ early, mark.2 < index) (above : ∀ mark ∈ late, index ≤ mark.2) :
    (FlatText.mk (early ++ late)).positionAtOrAfter index = early.length := by
  have entry (position : Nat) (within : position < (early ++ late).length) :
      ((early ++ late).map (·.2)).toArray.getD position 0 = ((early ++ late)[position]).2 := by
    rw [Array.getD_eq_getD_getElem?, List.getElem?_toArray, List.getElem?_map,
      List.getElem?_eq_getElem within]
    rfl
  refine bisect_eq ?_ ?_ (Nat.zero_le _) (by simp [offsets])
  · intro position small
    rw [offsets, entry position (by rw [List.length_append]; omega),
      List.getElem_append_left small]
    exact below _ (List.getElem_mem small)
  · intro position large within
    rw [offsets, List.length_map] at within
    rw [offsets, entry position within, List.getElem_append_right large]
    exact above _ (List.getElem_mem _)

end FlatText

end DocBinder.Docs
