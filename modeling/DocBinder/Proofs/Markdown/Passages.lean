import DocBinder.Markdown.Block
import DocBinder.Proofs.Markdown.Matches

/-!
# Passages of a line

The matches that count cut a line into passages: plain text, a marker, styled text, and the same
marker. Reading the line drops the markers and keeps everything else, and the spans are the places
of the styled texts in what is kept.
-/

namespace DocBinder

/-- The spans of a styled text are parts of it, none of them empty, one behind the other. -/
structure StyledText.Tidy (content : StyledText) : Prop where
  nonempty : ∀ span ∈ content.spans, span.start < span.stop
  within : ∀ span ∈ content.spans, span.stop ≤ content.text.length
  apart : content.spans.Pairwise fun first second => first.stop ≤ second.start

/-- A text with spans is not empty. -/
theorem StyledText.Tidy.text_ne_nil {content : StyledText} (tidy : content.Tidy)
    (spans : content.spans ≠ []) : content.text ≠ [] := by
  rcases List.exists_mem_of_ne_nil content.spans spans with ⟨span, mem⟩
  have nonempty := tidy.nonempty span mem
  have within := tidy.within span mem
  apply List.ne_nil_of_length_pos
  omega

namespace Markdown

/-- A styled text between two markers, and the plain text before it. -/
structure Passage where
  before : Text
  marker : Text
  inner : Text
  style : SpanStyle

namespace Passage

/-- A passage as it is written. -/
def written (passage : Passage) : Text :=
  passage.before ++ (passage.marker ++ (passage.inner ++ passage.marker))

/-- What a passage shows. -/
def shown (passage : Passage) : Text :=
  passage.before ++ passage.inner

end Passage

/-- The places of the styled texts, in what the passages show from a position on. -/
def innerSpans (position : Nat) : List Passage → List Span
  | [] => []
  | passage :: rest =>
      let start := position + passage.before.length
      let stop := start + passage.inner.length
      ⟨start, stop, passage.style⟩ :: innerSpans stop rest

/-- The matches that passages are, in what is written from a position on. -/
def innerMatches (position : Nat) : List Passage → List Emphasis
  | [] => []
  | passage :: rest =>
      ⟨passage.style, position + passage.before.length, passage.marker.length, passage.inner.length⟩
        :: innerMatches (position + passage.written.length) rest

/-! ## Removing markers -/

/-- Removing the markers of matches that stand one behind the other. -/
theorem exists_passages_of_removeMarkers (position written : Nat) (rest : Text)
    {found : List Emphasis} (stand : ∀ emphasis ∈ found, emphasis.Stands position rest)
    (apart : found.Pairwise fun first second => first.stop ≤ second.start) :
    ∃ (passages : List Passage) (last : Text),
      rest = passages.flatMap Passage.written ++ last ∧
      removeMarkers position written rest found =
        (passages.flatMap Passage.shown ++ last, innerSpans written passages) ∧
      innerMatches position passages = found ∧
      ∀ passage ∈ passages, passage.marker ∈ passage.style.markers ∧ passage.inner ≠ [] := by
  induction found generalizing position written rest with
  | nil => exact ⟨[], rest, rfl, rfl, rfl, by simp⟩
  | cons emphasis following step =>
      rw [List.pairwise_cons] at apart
      rcases stand emphasis List.mem_cons_self with
        ⟨before, marker, inner, behind, split, starts, isMarker, width, length, nonempty⟩
      let passage : Passage := ⟨before, marker, inner, emphasis.style⟩
      have splitHere : rest = passage.written ++ behind := by
        rw [split]
        simp [passage, Passage.written]
      have stops : emphasis.stop = position + passage.written.length := by
        simp only [Emphasis.stop, Emphasis.innerStop, Emphasis.innerStart, Passage.written,
          List.length_append, passage]
        omega
      have further : ∀ other ∈ following, other.Stands emphasis.stop behind := by
        intro other mem
        have stands := stand other (List.mem_cons_of_mem _ mem)
        rw [splitHere] at stands
        rw [stops]
        apply stands.drop
        rw [← stops]
        exact apart.1 other mem
      rcases step emphasis.stop (written + before.length + inner.length) behind further apart.2
        with ⟨passages, last, rfl, removed, areMatches, proper⟩
      refine ⟨passage :: passages, last, ?_, ?_, ?_, ?_⟩
      · rw [splitHere]
        simp
      · have front : rest.take (emphasis.start - position) = before := by
          rw [split, starts, Nat.add_sub_cancel_left, List.take_left]
        have middle : (rest.drop (emphasis.innerStart - position)).take emphasis.inner = inner := by
          have skips : emphasis.innerStart - position = (before ++ marker).length := by
            simp only [Emphasis.innerStart, List.length_append]
            omega
          rw [skips, split, ← List.append_assoc, List.drop_left, length, List.take_left]
        have back : rest.drop (emphasis.stop - position) =
            passages.flatMap Passage.written ++ last := by
          rw [stops, Nat.add_sub_cancel_left, splitHere, List.drop_left]
        simp only [removeMarkers, front, middle, back, removed, innerSpans, List.flatMap_cons,
          Passage.shown, List.append_assoc, passage]
      · rw [innerMatches, ← stops, areMatches]
        cases emphasis
        simp_all [passage]
      · intro other mem
        rcases List.mem_cons.mp mem with rfl | mem
        · exact ⟨isMarker, nonempty⟩
        · exact proper other mem

/-! ## The spans of passages -/

/-- The spans of passages stand one behind the other in what is shown, none of them empty. -/
theorem bounds_innerSpans (position : Nat) {passages : List Passage}
    (nonempty : ∀ passage ∈ passages, passage.inner ≠ []) :
    (∀ span ∈ innerSpans position passages, position ≤ span.start ∧ span.start < span.stop ∧
      span.stop ≤ position + (passages.flatMap Passage.shown).length) ∧
    (innerSpans position passages).Pairwise fun first second => first.stop ≤ second.start := by
  induction passages generalizing position with
  | nil => exact ⟨by simp [innerSpans], .nil⟩
  | cons passage rest step =>
      have positive := List.length_pos_iff.mpr (nonempty passage List.mem_cons_self)
      rcases step (position + passage.before.length + passage.inner.length)
        (fun other mem => nonempty other (List.mem_cons_of_mem _ mem)) with ⟨bounds, order⟩
      simp only [innerSpans, List.flatMap_cons, List.length_append, Passage.shown]
      constructor
      · intro span mem
        rcases List.mem_cons.mp mem with rfl | mem
        · dsimp only
          omega
        · have bound := bounds span mem
          omega
      · apply List.Pairwise.cons _ order
        intro span mem
        exact (bounds span mem).1

/-- The spans of passages cover their styled texts in what is shown. -/
theorem covers_innerSpans (front : Text) (passages : List Passage) (last : Text) :
    (innerSpans front.length passages).map (fun span => (span.style,
      (front ++ (passages.flatMap Passage.shown ++ last)).extract span.start span.stop)) =
      passages.map fun passage => (passage.style, passage.inner) := by
  induction passages generalizing front with
  | nil => rfl
  | cons passage rest step =>
      have further := step (front ++ passage.before ++ passage.inner)
      have split : front ++ ((passage :: rest).flatMap Passage.shown ++ last) =
          front ++ passage.before ++ passage.inner ++ (rest.flatMap Passage.shown ++ last) := by
        simp [Passage.shown]
      rw [← split, List.length_append, List.length_append] at further
      rw [innerSpans, List.map_cons, further, List.map_cons]
      congr 2
      rw [split, ← List.length_append, List.append_assoc, List.extract_eq_take_drop, List.drop_left,
        Nat.add_sub_cancel_left, List.take_left]

/-- The matches that passages are surround their styled texts in what is written. -/
theorem covers_innerMatches (front : Text) (passages : List Passage) (last : Text) :
    (innerMatches front.length passages).map (fun emphasis => (emphasis.style,
      (front ++ (passages.flatMap Passage.written ++ last)).extract emphasis.innerStart
        emphasis.innerStop)) =
      passages.map fun passage => (passage.style, passage.inner) := by
  induction passages generalizing front with
  | nil => rfl
  | cons passage rest step =>
      have further := step (front ++ passage.written)
      have split : front ++ ((passage :: rest).flatMap Passage.written ++ last) =
          front ++ passage.written ++ (rest.flatMap Passage.written ++ last) := by
        simp
      have inside : front ++ ((passage :: rest).flatMap Passage.written ++ last) =
          front ++ passage.before ++ passage.marker ++ (passage.inner ++
            (passage.marker ++ (rest.flatMap Passage.written ++ last))) := by
        simp [Passage.written]
      rw [← split, List.length_append] at further
      rw [innerMatches, List.map_cons, further, List.map_cons]
      congr 2
      simp only [Emphasis.innerStop, Emphasis.innerStart]
      rw [inside, ← List.length_append, ← List.length_append, List.extract_eq_take_drop,
        List.drop_left, Nat.add_sub_cancel_left, List.take_left]

/-! ## Lines -/

/-- Reading a line drops the markers of the matches that count and nothing else, and gives the places
of the styled texts in what is left. -/
theorem exists_passages (line : Text) :
    ∃ (passages : List Passage) (last : Text),
      line = passages.flatMap Passage.written ++ last ∧
      inlineSpans line = (passages.flatMap Passage.shown ++ last, innerSpans 0 passages) ∧
      innerMatches 0 passages = orderedMatches line ∧
      ∀ passage ∈ passages, passage.marker ∈ passage.style.markers ∧ passage.inner ≠ [] :=
  exists_passages_of_removeMarkers 0 0 line
    (fun _ mem => stands_of_mem_accepted (mem_orderedMatches.mp mem)) (pairwise_orderedMatches line)

/-- Reading inline markers gives a tidy text. -/
theorem tidy_inlineSpans (line : Text) :
    StyledText.Tidy ⟨(inlineSpans line).1, (inlineSpans line).2⟩ := by
  rcases exists_passages line with ⟨passages, last, _, reads, _, proper⟩
  rcases bounds_innerSpans 0 (fun passage mem => (proper passage mem).2) with ⟨bounds, apart⟩
  rw [reads]
  refine ⟨fun span mem => (bounds span mem).2.1, ?_, apart⟩
  intro span mem
  have within := (bounds span mem).2.2
  rw [List.length_append]
  omega

/-- The spans of a line cover what the matches that count surround. -/
theorem covers_inlineSpans (line : Text) :
    (inlineSpans line).2.map (fun span => (span.style,
      (inlineSpans line).1.extract span.start span.stop)) =
      (orderedMatches line).map fun emphasis => (emphasis.style,
        line.extract emphasis.innerStart emphasis.innerStop) := by
  rcases exists_passages line with ⟨passages, last, written, reads, areMatches, _⟩
  have spans := covers_innerSpans [] passages last
  have surrounded := covers_innerMatches [] passages last
  rw [List.nil_append, ← written] at surrounded
  rw [reads, ← areMatches]
  exact spans.trans surrounded.symm

/-- A line is its passages and some plain text after them. What is shown is the same without the
markers, each span is the place of a passage's styled text in it, and the passages are the matches
that count. -/
theorem cuts_inlineSpans (line : Text) :
    ∃ (passages : List Passage) (last : Text),
      line = passages.flatMap Passage.written ++ last ∧
      (inlineSpans line).1 = passages.flatMap Passage.shown ++ last ∧
      (inlineSpans line).2 = innerSpans 0 passages ∧
      innerMatches 0 passages = orderedMatches line ∧
      (∀ passage ∈ passages, passage.marker ∈ passage.style.markers ∧ passage.inner ≠ []) ∧
      (inlineSpans line).2.map (fun span => (span.style,
        (inlineSpans line).1.extract span.start span.stop)) =
        (passages.map fun passage => (passage.style, passage.inner)) ∧
      StyledText.Tidy ⟨(inlineSpans line).1, (inlineSpans line).2⟩ := by
  rcases exists_passages line with ⟨passages, last, written, reads, areMatches, proper⟩
  refine ⟨passages, last, written, ?_, ?_, areMatches, proper, ?_, tidy_inlineSpans line⟩
  · rw [reads]
  · rw [reads]
  · rw [reads]
    exact covers_innerSpans [] passages last

end Markdown

end DocBinder
