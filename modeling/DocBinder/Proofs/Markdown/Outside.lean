import DocBinder.Proofs.Content.Spread
import DocBinder.Proofs.Markdown.Passages

/-!
# Tokens outside of markers

Tokens are made of brackets, letters, digits and one underscore. So a marker of asterisks or backticks
overlaps none, and neither do doubled underscores. A single underscore opens emphasis only where no word
character stands before it, and closes it only where none stands behind it, while the underscore of a
token has word characters on both sides. Hence removing markers keeps all tokens.
-/

namespace DocBinder.Markdown

/-- A match stands in a text that begins at a position behind a character, and beside single
underscores stands no word character on the outside. -/
def Emphasis.Clear (emphasis : Emphasis) (previous : Option Char) (position : Nat) (text : Text) :
    Prop :=
  ∃ before marker inner behind, text = before ++ (marker ++ (inner ++ (marker ++ behind))) ∧
    emphasis.start = position + before.length ∧ emphasis.marker = marker.length ∧
    emphasis.inner = inner.length ∧
    (marker = ['_'] → (previous.toList ++ before).getLast?.any Text.isWord = false ∧
      behind.head?.any Text.isWord = false)

namespace Emphasis.Clear

variable {emphasis : Emphasis} {previous : Option Char} {position : Nat} {text : Text}

theorem cons {character : Char} (clear : emphasis.Clear (some character) (position + 1) text) :
    emphasis.Clear previous position (character :: text) := by
  rcases clear with ⟨before, marker, inner, behind, rfl, starts, wide, long, free⟩
  refine ⟨character :: before, marker, inner, behind, rfl, ?_, wide, long, ?_⟩
  · rw [starts, List.length_cons]
    omega
  · intro isLine
    rcases free isLine with ⟨last, first⟩
    refine ⟨?_, first⟩
    have same : (previous.toList ++ character :: before).getLast? =
        (character :: before).getLast? := by
      simp [List.getLast?_append, List.getLast?_cons]
    rw [same]
    exact last

/-- Where a match begins with something else than a single underscore, nothing is asked for. -/
theorem of_stands (stands : emphasis.Stands position text) (begins : emphasis.start = position)
    (notLine : ∀ behind, text = '_' :: behind → emphasis.marker ≠ 1) :
    emphasis.Clear previous position text := by
  rcases stands with ⟨before, marker, inner, behind, rfl, starts, _, wide, long, _⟩
  refine ⟨before, marker, inner, behind, rfl, starts, wide, long, ?_⟩
  rintro rfl
  have isHead : before = [] := by
    apply List.eq_nil_of_length_eq_zero
    omega
  subst isHead
  exact absurd wide (notLine _ rfl)

end Emphasis.Clear

/-- What is found at the head of a text is clear. -/
theorem clear_of_emphasisAt {style : SpanStyle} {previous : Option Char} {position width inner : Nat}
    {text : Text} (finds : emphasisAt style previous text = some (width, inner)) :
    Emphasis.Clear ⟨style, position, width, inner⟩ previous position text := by
  have stands := stands_of_emphasisAt position finds
  cases style with
  | code =>
      apply Emphasis.Clear.of_stands stands rfl
      rintro behind rfl
      cases finds
  | bold =>
      apply Emphasis.Clear.of_stands stands rfl
      rintro behind rfl
      simp only [emphasisAt, boldAt] at finds
      split at finds
      · rename_i same
        cases same
      · rcases Option.map_eq_some_iff.mp finds with ⟨_, _, same⟩
        cases same
        exact Nat.succ_succ_ne_one 0
      · cases finds
  | italic =>
      simp only [emphasisAt, italicAt] at finds
      split at finds
      · apply Emphasis.Clear.of_stands stands rfl
        intro behind same
        cases same
      · rcases exists_split_of_singleAt finds with ⟨shown, behind, rfl, _, rfl, rfl, last, first⟩
        refine ⟨[], ['_'], shown, behind, rfl, rfl, rfl, rfl, fun _ => ⟨?_, first⟩⟩
        cases previous with
        | none => rfl
        | some character => exact last
      · cases finds

theorem clear_of_mem_scanFrom {style : SpanStyle} {previous : Option Char} {position skip : Nat}
    {text : Text} {emphasis : Emphasis}
    (mem : emphasis ∈ scanFrom style previous position skip text) :
    emphasis.Clear previous position text := by
  induction text generalizing previous position skip with
  | nil => cases mem
  | cons character rest step =>
      cases skip with
      | succ skip => exact (step mem).cons
      | zero =>
          rw [scanFrom] at mem
          split at mem
          · rename_i marker inner finds
            rcases List.mem_cons.mp mem with rfl | mem
            · exact clear_of_emphasisAt finds
            · exact (step mem).cons
          · exact (step mem).cons

theorem clear_of_mem_accepted {line : Text} {emphasis : Emphasis}
    (mem : emphasis ∈ accepted line) : emphasis.Clear none 0 line := by
  rcases exists_scan_of_mem_accepted mem with ⟨style, mem⟩
  exact clear_of_mem_scanFrom mem

/-! ## Removing markers -/

/-- A marker overlaps no token, if no word character stands beside it where it is one underscore. -/
theorem aside_marker {style : SpanStyle} {marker : Text} (isMarker : marker ∈ style.markers)
    {front back : Text} (free : marker = ['_'] →
      front.getLast?.any Text.isWord = false ∨ back.head?.any Text.isWord = false) :
    Text.Aside front marker back := by
  have foreign (character : Char) (notLetter : character ∉ Placeholder.tokenLetters)
      (notDecimal : Text.isDecimal character = false) (count : Nat) (positive : 0 < count) :
      Text.Aside front (List.replicate count character) back := by
    apply Text.aside_of_foreign (by simp; omega)
    intro other mem
    rw [List.eq_of_mem_replicate mem]
    exact ⟨notLetter, notDecimal⟩
  cases style with
  | code =>
      rw [List.mem_singleton.mp isMarker]
      exact foreign '`' (by decide) (by decide) 1 (by decide)
  | bold =>
      rcases List.mem_pair.mp isMarker with rfl | rfl
      · exact foreign '*' (by decide) (by decide) 2 (by decide)
      · exact Text.aside_underscores front back
  | italic =>
      rcases List.mem_pair.mp isMarker with rfl | rfl
      · exact foreign '*' (by decide) (by decide) 1 (by decide)
      · exact Text.aside_underscore (free rfl)

/-- The induction is on the passages. What stands before them is kept as it is written, since the
matches are told by their places in the whole line. -/
theorem bears_shown {line : Text} {done : Text} {passages : List Passage} {last : Text}
    {tokens : List Text} (whole : line = done ++ (passages.flatMap Passage.written ++ last))
    (areMatches : ∀ emphasis ∈ innerMatches done.length passages, emphasis ∈ accepted line)
    (areMarkers : ∀ passage ∈ passages, passage.marker ∈ passage.style.markers)
    (bears : Text.Bears (passages.flatMap Passage.written ++ last) tokens) :
    Text.Bears (passages.flatMap Passage.shown ++ last) tokens := by
  induction passages generalizing done tokens with
  | nil => exact bears
  | cons passage rest step =>
      let behind := rest.flatMap Passage.written ++ last
      have isMarker := areMarkers passage List.mem_cons_self
      have written : (passage :: rest).flatMap Passage.written ++ last =
          passage.before ++ (passage.marker ++ (passage.inner ++ (passage.marker ++ behind))) := by
        simp [Passage.written, behind]
      have free : passage.marker = ['_'] → (done ++ passage.before).getLast?.any Text.isWord = false ∧
          behind.head?.any Text.isWord = false := by
        have clear := clear_of_mem_accepted (areMatches _ List.mem_cons_self)
        rcases clear with ⟨before, marker, inner, after, split, starts, wide, long, free⟩
        rw [written, ← List.append_assoc] at whole
        rw [whole] at split
        have begins : (done ++ passage.before).length = before.length := by
          rw [List.length_append]
          simpa using starts
        rcases List.append_inj split begins with ⟨isBefore, behindBefore⟩
        rcases List.append_inj behindBefore wide with ⟨isMarker, behindMarker⟩
        rcases List.append_inj behindMarker long with ⟨_, behindInner⟩
        rw [isMarker] at behindInner ⊢
        rw [isBefore, List.append_cancel_left behindInner]
        exact free
      rw [written] at bears
      have opens : Text.Aside passage.before passage.marker
          (passage.inner ++ (passage.marker ++ behind)) := by
        apply aside_marker isMarker
        intro isLine
        left
        have outside := (free isLine).1
        rw [List.getLast?_append] at outside
        cases ends : passage.before.getLast? with
        | none => rfl
        | some character =>
            rw [ends] at outside
            exact outside
      have closes : Text.Aside passage.inner passage.marker behind :=
        aside_marker isMarker fun isLine => .inr (free isLine).2
      rcases bears.split opens with ⟨first, others, rfl, beforeBears, bears⟩
      rcases bears.split closes with ⟨second, others, rfl, innerBears, bears⟩
      have shown : (passage :: rest).flatMap Passage.shown ++ last =
          passage.before ++ (passage.inner ++ (rest.flatMap Passage.shown ++ last)) := by
        simp [Passage.shown]
      rw [shown]
      apply beforeBears.append (innerBears.append _)
      have further : line = (done ++ passage.written) ++ behind := by
        rw [whole, written]
        simp [Passage.written]
      refine step further ?_ (fun other mem => areMarkers other (List.mem_cons_of_mem _ mem)) bears
      intro emphasis mem
      apply areMatches
      rw [List.length_append] at mem
      exact List.mem_cons_of_mem _ mem

/-- Reading the inline markers of a line keeps its tokens. -/
theorem bears_inlineSpans {line : Text} {tokens : List Text} (bears : Text.Bears line tokens) :
    Text.Bears (inlineSpans line).1 tokens := by
  rcases exists_passages line with ⟨passages, last, written, reads, areMatches, proper⟩
  rw [reads]
  rw [written] at bears
  have areAccepted : ∀ emphasis ∈ innerMatches ([] : Text).length passages,
      emphasis ∈ accepted line := by
    intro emphasis mem
    apply mem_orderedMatches.mp
    rw [← areMatches]
    exact mem
  exact bears_shown written areAccepted (fun _ mem => (proper _ mem).1) bears

end DocBinder.Markdown
