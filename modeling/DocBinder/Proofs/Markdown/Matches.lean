import DocBinder.Markdown.Span
import DocBinder.Proofs.Sort

/-!
# Matches of inline markers

A match of a style is a marker of that style, at least one character, and the same marker again. The
matches that one style finds in a line never overlap, and of different styles only those are kept
that overlap no other. So in the order of their places the matches that count stand one behind the
other.
-/

namespace DocBinder

/-- The markers that a style is written with. -/
def SpanStyle.markers : SpanStyle → List Text
  | .code => [['`']]
  | .bold => [['*', '*'], ['_', '_']]
  | .italic => [['*'], ['_']]

namespace Markdown

/-! ## The matches of one style -/

/-- A match stands in a text that begins at a position: its marker, some characters, and the marker
again. -/
def Emphasis.Stands (emphasis : Emphasis) (position : Nat) (text : Text) : Prop :=
  ∃ before marker inner behind, text = before ++ (marker ++ (inner ++ (marker ++ behind))) ∧
    emphasis.start = position + before.length ∧ marker ∈ emphasis.style.markers ∧
    emphasis.marker = marker.length ∧ emphasis.inner = inner.length ∧ inner ≠ []

namespace Emphasis.Stands

variable {emphasis : Emphasis} {position : Nat} {text : Text}

theorem inner_pos (stands : emphasis.Stands position text) : 0 < emphasis.inner := by
  rcases stands with ⟨_, _, inner, _, _, _, _, _, same, nonempty⟩
  rw [same]
  exact List.length_pos_iff.mpr nonempty

theorem start_lt_stop (stands : emphasis.Stands position text) : emphasis.start < emphasis.stop := by
  have positive := stands.inner_pos
  simp only [stop, innerStop, innerStart]
  omega

theorem cons (character : Char) (stands : emphasis.Stands (position + 1) text) :
    emphasis.Stands position (character :: text) := by
  rcases stands with ⟨before, marker, inner, behind, rfl, starts, further⟩
  refine ⟨character :: before, marker, inner, behind, rfl, ?_, further⟩
  simp only [starts, List.length_cons]
  omega

/-- What a match stands in can be cut off before it. -/
theorem drop {front : Text} (stands : emphasis.Stands position (front ++ text))
    (notBefore : position + front.length ≤ emphasis.start) :
    emphasis.Stands (position + front.length) text := by
  rcases stands with ⟨before, marker, inner, behind, split, starts, further⟩
  have within : front.length ≤ before.length := by omega
  refine ⟨before.drop front.length, marker, inner, behind, ?_, ?_, further⟩
  · rw [← List.drop_append_of_le_length within, ← split, List.drop_left]
  · rw [List.length_drop]
    omega

end Emphasis.Stands

theorem exists_split_of_nearest {closes : Char → Text → Bool} {passed inner : Nat} {text : Text}
    (finds : nearest closes passed text = some inner) :
    ∃ front last after, text = front ++ last :: after ∧ inner = passed + front.length + 1 ∧
      closes last after = true := by
  induction text generalizing passed with
  | nil => cases finds
  | cons character rest step =>
      rw [nearest] at finds
      split at finds
      · cases finds
      · split at finds
        · rename_i closed
          cases finds
          exact ⟨[], character, rest, rfl, rfl, closed⟩
        · rcases step finds with ⟨front, last, after, rfl, rfl, closed⟩
          refine ⟨character :: front, last, after, rfl, ?_, closed⟩
          simp only [List.length_cons]
          omega

section Head

variable {width inner : Nat} (position : Nat)

/-- A single marker is closed by another one, and beside neither stands what would join it. -/
theorem exists_split_of_singleAt {marker : Char} {joins : Char → Bool} {before : Option Char}
    {rest : Text} (finds : singleAt marker joins before rest = some (width, inner)) :
    ∃ shown behind, rest = shown ++ marker :: behind ∧ shown ≠ [] ∧ width = 1 ∧
      inner = shown.length ∧ before.any joins = false ∧ behind.head?.any joins = false := by
  unfold singleAt at finds
  split at finds
  · cases finds
  · rename_i apart
    split at finds
    · split at finds
      · rcases Option.map_eq_some_iff.mp finds with ⟨found, isNearest, same⟩
        cases same
        rcases exists_split_of_nearest isNearest with ⟨front, last, after, split, rfl, closed⟩
        rw [Bool.and_eq_true] at closed
        split at closed
        · rename_i close following
          simp only [Bool.and_eq_true, beq_iff_eq, Bool.not_eq_true'] at closed
          rcases closed with ⟨_, rfl, free⟩
          refine ⟨front ++ [last], following, ?_, by simp, rfl, ?_, ?_, free⟩
          · rw [split, List.append_assoc, List.singleton_append]
          · simp
          · exact Bool.eq_false_iff.mpr apart
        · simp at closed
      · cases finds
    · cases finds

theorem stands_of_singleAt {style : SpanStyle} {marker : Char} {joins : Char → Bool}
    {before : Option Char} {rest : Text} (isMarker : [marker] ∈ style.markers)
    (finds : singleAt marker joins before rest = some (width, inner)) :
    Emphasis.Stands ⟨style, position, width, inner⟩ position (marker :: rest) := by
  rcases exists_split_of_singleAt finds with ⟨shown, behind, rfl, nonempty, rfl, rfl, _⟩
  exact ⟨[], [marker], shown, behind, rfl, rfl, isMarker, rfl, rfl, nonempty⟩

theorem stands_of_doubled {marker rest : Text} (isMarker : marker ∈ SpanStyle.markers .bold)
    (wide : marker.length = 2)
    (finds : (nearest (fun _ after => marker.isPrefixOf after) 0 rest).map
      (fun inner => (2, inner)) = some (width, inner)) :
    Emphasis.Stands ⟨.bold, position, width, inner⟩ position (marker ++ rest) := by
  rcases Option.map_eq_some_iff.mp finds with ⟨found, isNearest, same⟩
  cases same
  rcases exists_split_of_nearest isNearest with ⟨front, last, after, rfl, rfl, closed⟩
  rcases List.isPrefixOf_iff_prefix.mp closed with ⟨behind, rfl⟩
  refine ⟨[], marker, front ++ [last], behind, ?_, rfl, isMarker, wide.symm, ?_, ?_⟩
  · simp
  · simp
  · simp

theorem stands_of_codeAt {text : Text} (finds : codeAt text = some (width, inner)) :
    Emphasis.Stands ⟨.code, position, width, inner⟩ position text := by
  simp only [codeAt] at finds
  split at finds
  · split at finds
    · cases finds
    · rename_i rest isNonempty
      split at finds
      · rename_i behind closes
        cases finds
        let shown := rest.takeWhile fun character => character != '`' && character != '\n'
        have split : rest = shown ++ '`' :: behind := by
          rw [← closes]
          exact (List.prefix_iff_eq_append.mp (List.takeWhile_prefix _)).symm
        refine ⟨[], ['`'], shown, behind, ?_, rfl, by simp [SpanStyle.markers], rfl, rfl, ?_⟩
        · exact congrArg ('`' :: ·) split
        · exact fun isEmpty => isNonempty (List.isEmpty_iff.mpr isEmpty)
      · cases finds
  · cases finds

/-- What is found at the head of a text stands there. -/
theorem stands_of_emphasisAt {style : SpanStyle} {before : Option Char} {text : Text}
    (finds : emphasisAt style before text = some (width, inner)) :
    Emphasis.Stands ⟨style, position, width, inner⟩ position text := by
  cases style with
  | code => exact stands_of_codeAt position finds
  | bold =>
      simp only [emphasisAt, boldAt] at finds
      split at finds
      · exact stands_of_doubled position (by simp [SpanStyle.markers]) rfl finds
      · exact stands_of_doubled position (by simp [SpanStyle.markers]) rfl finds
      · cases finds
  | italic =>
      simp only [emphasisAt, italicAt] at finds
      split at finds
      · exact stands_of_singleAt position (by simp [SpanStyle.markers]) finds
      · exact stands_of_singleAt position (by simp [SpanStyle.markers]) finds
      · cases finds

end Head

/-- Scanning finds matches of its style that stand in the text, behind what it skips. -/
theorem stands_of_mem_scanFrom {style : SpanStyle} {before : Option Char} {position skip : Nat}
    {text : Text} {emphasis : Emphasis}
    (mem : emphasis ∈ scanFrom style before position skip text) :
    emphasis.style = style ∧ position + skip ≤ emphasis.start ∧ emphasis.Stands position text := by
  induction text generalizing before position skip with
  | nil => cases mem
  | cons character rest step =>
      have later {further : Nat}
          (mem : emphasis ∈ scanFrom style (some character) (position + 1) further rest) :
          emphasis.style = style ∧ position + 1 + further ≤ emphasis.start ∧
            emphasis.Stands position (character :: rest) := by
        rcases step mem with ⟨isStyle, behind, stands⟩
        exact ⟨isStyle, behind, stands.cons character⟩
      cases skip with
      | succ skip =>
          rcases later mem with ⟨isStyle, behind, stands⟩
          exact ⟨isStyle, by omega, stands⟩
      | zero =>
          rw [scanFrom] at mem
          split at mem
          · rename_i marker inner finds
            rcases List.mem_cons.mp mem with rfl | mem
            · exact ⟨rfl, Nat.le_refl _, stands_of_emphasisAt position finds⟩
            · rcases later mem with ⟨isStyle, behind, stands⟩
              exact ⟨isStyle, by omega, stands⟩
          · rcases later mem with ⟨isStyle, behind, stands⟩
            exact ⟨isStyle, by omega, stands⟩

theorem pairwise_scanFrom {style : SpanStyle} {before : Option Char} {position skip : Nat}
    {text : Text} :
    (scanFrom style before position skip text).Pairwise fun first second =>
      first.stop ≤ second.start := by
  induction text generalizing before position skip with
  | nil => exact .nil
  | cons character rest step =>
      cases skip with
      | succ skip => exact step
      | zero =>
          rw [scanFrom]
          split
          · rename_i marker inner finds
            have positive := (stands_of_emphasisAt position finds).inner_pos
            dsimp only at positive
            apply List.Pairwise.cons _ step
            intro other mem
            have behind := (stands_of_mem_scanFrom mem).2.1
            simp only [Emphasis.stop, Emphasis.innerStop, Emphasis.innerStart]
            omega
          · exact step

theorem pairwise_scan (style : SpanStyle) (line : Text) :
    (scan style line).Pairwise fun first second => first.stop ≤ second.start :=
  pairwise_scanFrom

/-! ## The matches that count -/

/-- One of two matches ends before the other begins. -/
def Emphasis.Apart (first second : Emphasis) : Prop :=
  first.stop ≤ second.start ∨ second.stop ≤ first.start

theorem Emphasis.apart_of_overlaps {first second : Emphasis}
    (free : first.overlaps second = false) : second.Apart first := by
  simp only [overlaps, Bool.and_eq_false_iff, decide_eq_false_iff_not] at free
  rw [Apart]
  omega

theorem apart_keepFree {kept found : List Emphasis} (keptApart : kept.Pairwise Emphasis.Apart)
    (foundApart : found.Pairwise Emphasis.Apart) :
    (keepFree kept found).Pairwise Emphasis.Apart := by
  rw [keepFree, List.pairwise_append]
  refine ⟨keptApart, foundApart.filter _, ?_⟩
  intro first firstMem second secondMem
  rw [List.mem_filter, Bool.not_eq_true', List.any_eq_false] at secondMem
  apply Emphasis.apart_of_overlaps
  simpa using secondMem.2 first firstMem

theorem apart_scan (style : SpanStyle) (line : Text) :
    (scan style line).Pairwise Emphasis.Apart := by
  apply (pairwise_scan style line).imp
  intro first second behind
  exact .inl behind

theorem apart_accepted (line : Text) : (accepted line).Pairwise Emphasis.Apart :=
  apart_keepFree (apart_keepFree (apart_scan .code line) (apart_scan .bold line))
    (apart_scan .italic line)

theorem exists_scan_of_mem_accepted {line : Text} {emphasis : Emphasis}
    (mem : emphasis ∈ accepted line) : ∃ style, emphasis ∈ scan style line := by
  rw [accepted, keepFree, keepFree] at mem
  simp only [List.mem_append, List.mem_filter] at mem
  rcases mem with (mem | ⟨mem, _⟩) | ⟨mem, _⟩
  · exact ⟨_, mem⟩
  · exact ⟨_, mem⟩
  · exact ⟨_, mem⟩

theorem stands_of_mem_accepted {line : Text} {emphasis : Emphasis}
    (mem : emphasis ∈ accepted line) : emphasis.Stands 0 line := by
  rcases exists_scan_of_mem_accepted mem with ⟨style, mem⟩
  exact (stands_of_mem_scanFrom mem).2.2

/-- The matches that count, in the order of their places. -/
def orderedMatches (line : Text) : List Emphasis :=
  (accepted line).mergeSort fun first second => first.start ≤ second.start

theorem mem_orderedMatches {line : Text} {emphasis : Emphasis} :
    emphasis ∈ orderedMatches line ↔ emphasis ∈ accepted line :=
  List.mem_mergeSort

theorem pairwise_orderedMatches (line : Text) :
    (orderedMatches line).Pairwise fun first second => first.stop ≤ second.start := by
  have apart := ((List.mergeSort_perm (accepted line) fun first second =>
    first.start ≤ second.start).pairwise_iff fun apart => apart.symm).mpr (apart_accepted line)
  have sorted := pairwise_sort Emphasis.start (accepted line)
  apply (apart.and sorted).imp_of_mem
  intro first second firstMem secondMem both
  have notEmpty := (stands_of_mem_accepted (mem_orderedMatches.mp secondMem)).start_lt_stop
  rcases both with ⟨inOrder | inOrder, order⟩
  · exact inOrder
  · omega

end Markdown

end DocBinder
