import DocBinder.Docs.Buffer
import Mathlib.Data.List.Basic

/-!
# Edits at boundaries

A request names an index, and the service looks for the unit that begins there. This file says
what the requests do when their indices are given by the units before them: a buffer is written
as what lies before an index, what a range covers, and what lies behind, and an edit puts its
units between these parts.

An index that is the beginning of a unit, or the end of the body, is a boundary. Every request
that is accepted names boundaries only.
-/

namespace DocBinder.Docs

theorem charWidth_pos (character : Char) : 0 < Text.charWidth character := by
  unfold Text.charWidth
  split <;> omega

theorem BodyUnit.width_pos (unit : BodyUnit) : 0 < unit.width := by
  cases unit <;> simp [BodyUnit.width, charWidth_pos]

namespace Buffer

/-! ## Widths -/

@[simp] theorem width_nil : width [] = 0 :=
  rfl

@[simp] theorem width_cons (unit : BodyUnit) (rest : Buffer) :
    width (unit :: rest) = unit.width + width rest :=
  rfl

@[simp] theorem width_append (first second : Buffer) :
    width (first ++ second) = width first + width second := by
  simp [width]

@[simp] theorem width_chars (text : Text) : width (text.map .char) = Text.width text := by
  induction text with
  | nil => rfl
  | cons character rest step =>
      rw [List.map_cons, width_cons, step]
      rfl

@[simp] theorem width_lineFeed : BodyUnit.width .lineFeed = 1 :=
  rfl

theorem width_pos {buffer : Buffer} (nonempty : buffer ≠ []) : 0 < buffer.width := by
  cases buffer with
  | nil => exact absurd rfl nonempty
  | cons unit rest =>
      have := unit.width_pos
      rw [width_cons]
      omega

@[simp] theorem text_nil : text [] = [] :=
  rfl

theorem text_cons (unit : BodyUnit) (rest : Buffer) :
    text (unit :: rest) = unit.char?.toList ++ text rest := by
  cases unit <;> rfl

/-- The characters of two buffers are those of the first and then those of the second. -/
@[simp] theorem text_append (first second : Buffer) :
    text (first ++ second) = text first ++ text second := by
  simp [text]

@[simp] theorem text_chars (characters : Text) : text (characters.map .char) = characters := by
  induction characters with
  | nil => rfl
  | cons character rest step =>
      rw [List.map_cons, text_cons, step]
      rfl

/-! ## Positions -/

theorem positionFrom?_self (start : Nat) (buffer : Buffer) :
    positionFrom? start start buffer = some 0 := by
  cases buffer <;> simp [positionFrom?]

/-- The index behind some units is the position of what follows them. -/
theorem positionFrom?_append (start : Nat) (before after : Buffer) :
    positionFrom? (start + before.width) start (before ++ after) = some before.length := by
  induction before generalizing start with
  | nil => simpa using positionFrom?_self start after
  | cons unit rest step =>
      have widthPos := unit.width_pos
      have apart : start + width (unit :: rest) ≠ start := by
        rw [width_cons]
        omega
      have behind : start + width (unit :: rest) = start + unit.width + width rest := by
        rw [width_cons]
        omega
      rw [List.cons_append, positionFrom?, if_neg apart, behind, step]
      simp

/-- A position is found only where the units before it end. -/
theorem positionFrom?_eq_some {index start position : Nat} {buffer : Buffer}
    (found : positionFrom? index start buffer = some position) :
    ∃ before after, buffer = before ++ after ∧ index = start + before.width ∧
      position = before.length := by
  induction buffer generalizing start position with
  | nil =>
      simp only [positionFrom?] at found
      split at found
      · rename_i same
        exact ⟨[], [], rfl, by simpa using same, by simpa using found.symm⟩
      · cases found
  | cons unit rest step =>
      rw [positionFrom?] at found
      split at found
      · rename_i same
        exact ⟨[], unit :: rest, rfl, by simpa using same, by simpa using found.symm⟩
      · rw [Option.map_eq_some_iff] at found
        rcases found with ⟨inner, innerFound, rfl⟩
        rcases step innerFound with ⟨before, after, rfl, rfl, rfl⟩
        refine ⟨unit :: before, after, rfl, ?_, rfl⟩
        rw [width_cons]
        omega

/-- An index at which a unit begins, or the body ends. -/
def Boundary (buffer : Buffer) (index : Nat) : Prop :=
  ∃ before after, buffer = before ++ after ∧ index = before.width + 1

theorem position_append (before after : Buffer) :
    position (before ++ after) (before.width + 1) = .ok before.length := by
  have found := positionFrom?_append 1 before after
  rw [Nat.add_comm 1] at found
  simp only [position, found]

theorem position_eq_ok {buffer : Buffer} {index found : Nat}
    (located : buffer.position index = .ok found) :
    ∃ before after, buffer = before ++ after ∧ index = before.width + 1 ∧
      found = before.length := by
  unfold position at located
  split at located
  · rename_i position positionFound
    cases located
    rcases positionFrom?_eq_some positionFound with ⟨before, after, split, index, length⟩
    exact ⟨before, after, split, by omega, length⟩
  · cases located

theorem insertPosition_at {before after : Buffer} (nonempty : after ≠ []) :
    insertPosition (before ++ after) (.at (before.width + 1)) = .ok before.length := by
  have widthPos := width_pos nonempty
  have inside : 1 ≤ before.width + 1 ∧ before.width + 1 < endIndex (before ++ after) := by
    simp only [endIndex, width_append]
    omega
  rw [insertPosition, if_pos inside, position_append]

theorem rangePositions_append {before covered after : Buffer} (nonempty : covered ≠ []) :
    rangePositions (before ++ (covered ++ after)) (before.width + 1)
        (before.width + covered.width + 1) =
      .ok (before.length, before.length + covered.length) := by
  have widthPos := width_pos nonempty
  have inside : 1 ≤ before.width + 1 ∧
      before.width + 1 < before.width + covered.width + 1 ∧
      before.width + covered.width + 1 ≤ endIndex (before ++ (covered ++ after)) := by
    simp only [endIndex, width_append]
    omega
  have first := position_append before (covered ++ after)
  have last := position_append (before ++ covered) after
  rw [width_append, List.append_assoc, List.length_append] at last
  rw [rangePositions, if_pos inside, first, last]
  rfl

theorem insertAt_append (before after units : Buffer) :
    insertAt (before ++ after) before.length units = before ++ (units ++ after) := by
  simp [insertAt]

theorem deleteBetween_append (before covered after : Buffer) :
    deleteBetween (before ++ (covered ++ after)) before.length
        (before.length + covered.length) = before ++ after := by
  simp [deleteBetween, List.drop_append]

end Buffer

/-! ## Requests -/

namespace Request

variable (before : Buffer) {covered after : Buffer}

theorem apply_insertText_at (text : Text) (nonempty : after ≠ []) :
    (insertText text (.at (before.width + 1))).apply (before ++ after) =
      .ok (before ++ (text.map .char ++ after), ⟨[], []⟩) := by
  simp only [apply, Buffer.insertPosition_at nonempty, bind, Except.bind, pure, Except.pure,
    Buffer.insertAt_append]

theorem apply_insertImage (uri : Text) (nonempty : after ≠ []) :
    (insertImage uri (before.width + 1)).apply (before ++ after) =
      .ok (before ++ ([.image uri] ++ after), ⟨[], [uri]⟩) := by
  simp only [apply, Buffer.insertPosition_at nonempty, bind, Except.bind, pure, Except.pure,
    Buffer.insertAt_append]

theorem apply_insertText_bodyEnd (body : Buffer) (last : BodyUnit) (text : Text) :
    (insertText text .bodyEnd).apply (body ++ [last]) =
      .ok (body ++ (text.map .char ++ [last]), ⟨[], []⟩) := by
  have place : (body ++ [last]).length - 1 = body.length := by simp
  simp only [apply, Buffer.insertPosition, place, bind, Except.bind, pure, Except.pure,
    Buffer.insertAt_append]

theorem apply_insertTable_bodyEnd (body : Buffer) (last : BodyUnit) (rows columns : Nat) :
    (insertTable rows columns .bodyEnd).apply (body ++ [last]) =
      .ok (body ++ (Buffer.emptyTable rows columns ++ [last]), ⟨[], []⟩) := by
  have place : (body ++ [last]).length - 1 = body.length := by simp
  simp only [apply, Buffer.insertPosition, place, bind, Except.bind, pure, Except.pure,
    Buffer.insertAt_append]

theorem apply_deleteRange (after : Buffer) (nonempty : covered ≠ []) :
    (deleteRange (before.width + 1) (before.width + covered.width + 1)).apply
        (before ++ (covered ++ after)) =
      .ok (before ++ after, ⟨[], []⟩) := by
  simp only [apply, Buffer.rangePositions_append nonempty, bind, Except.bind, pure, Except.pure,
    Buffer.deleteBetween_append]

/-- Styling a range leaves the body as it is and tells which text was covered. -/
theorem apply_styleText (after : Buffer) (style : TextStyle) (nonempty : covered ≠ []) :
    (styleText (before.width + 1) (before.width + covered.width + 1) style).apply
        (before ++ (covered ++ after)) =
      .ok (before ++ (covered ++ after), ⟨[(covered.text, style)], []⟩) := by
  have shown : ((before ++ (covered ++ after)).take (before.length + covered.length)).drop
      before.length = covered := by
    rw [List.take_length_add_append, List.drop_left, List.take_left]
  simp only [apply, Buffer.rangePositions_append nonempty, bind, Except.bind, pure, Except.pure,
    shown]

end Request

/-! ## Batches -/

theorem applyBatch_nil (buffer : Buffer) : applyBatch buffer [] = .ok (buffer, ⟨[], []⟩) :=
  rfl

theorem applyBatch_cons {request : Request} {buffer next final : Buffer}
    {rest : List Request} {first following : Effects}
    (head : request.apply buffer = .ok (next, first))
    (tail : applyBatch next rest = .ok (final, following)) :
    applyBatch buffer (request :: rest) =
      .ok (final, ⟨first.styled ++ following.styled, first.images ++ following.images⟩) := by
  simp only [applyBatch, head, tail, bind, Except.bind, pure, Except.pure]

/-- Two batches one after the other do what the batch of all their requests does. -/
theorem applyBatch_append {buffer next final : Buffer} {first second : List Request}
    {early late : Effects} (begun : applyBatch buffer first = .ok (next, early))
    (finished : applyBatch next second = .ok (final, late)) :
    applyBatch buffer (first ++ second) =
      .ok (final, ⟨early.styled ++ late.styled, early.images ++ late.images⟩) := by
  induction first generalizing buffer early with
  | nil =>
      cases begun
      simpa using finished
  | cons request rest step =>
      simp only [applyBatch, bind, Except.bind] at begun
      split at begun
      · cases begun
      · rename_i applied appliedEq
        rcases applied with ⟨middle, here⟩
        dsimp only at begun
        split at begun
        · cases begun
        · rename_i followed followedEq
          rcases followed with ⟨reached, further⟩
          cases begun
          rw [List.cons_append, applyBatch_cons appliedEq (step followedEq)]
          simp

/-! ## Styling -/

/-- Requests that each show the text they style show all of these texts. -/
theorem applyBatch_map_styles {α : Type} {buffer : Buffer} {items : List α} {request : α → Request}
    {shown : α → Text × TextStyle} (each : ∀ item ∈ items,
      (request item).apply buffer = .ok (buffer, ⟨[shown item], []⟩)) :
    applyBatch buffer (items.map request) = .ok (buffer, ⟨items.map shown, []⟩) := by
  induction items with
  | nil => rfl
  | cons item rest step =>
      exact applyBatch_cons (each item List.mem_cons_self)
        (step fun other mem => each other (List.mem_cons_of_mem _ mem))

namespace Buffer

/-- A range of indices that begins and ends at boundaries and covers at least one unit. -/
def Covers (buffer : Buffer) (start stop : Nat) : Prop :=
  ∃ before covered after, buffer = before ++ (covered ++ after) ∧ covered ≠ [] ∧
    start = before.width + 1 ∧ stop = before.width + covered.width + 1

theorem Covers.lt {buffer : Buffer} {start stop : Nat} (covers : buffer.Covers start stop) :
    start < stop := by
  rcases covers with ⟨before, covered, after, _, nonempty, rfl, rfl⟩
  have := width_pos nonempty
  omega

end Buffer

/-- Requests that style ranges of a buffer. -/
def StylesOnly (buffer : Buffer) (requests : List Request) : Prop :=
  ∀ request ∈ requests, ∃ start stop style,
    request = .styleText start stop style ∧ buffer.Covers start stop

theorem StylesOnly.append {buffer : Buffer} {first second : List Request}
    (firstStyles : StylesOnly buffer first) (secondStyles : StylesOnly buffer second) :
    StylesOnly buffer (first ++ second) := by
  intro request mem
  rcases List.mem_append.mp mem with mem | mem
  · exact firstStyles request mem
  · exact secondStyles request mem

/-- A batch that only styles ranges of a body leaves it as it is. -/
theorem applyBatch_stylesOnly {buffer : Buffer} {requests : List Request}
    (styles : StylesOnly buffer requests) :
    ∃ styled, applyBatch buffer requests = .ok (buffer, ⟨styled, []⟩) := by
  induction requests with
  | nil => exact ⟨[], rfl⟩
  | cons request rest step =>
      rcases step fun other mem => styles other (List.mem_cons_of_mem _ mem) with ⟨styled, applied⟩
      rcases styles request List.mem_cons_self with
        ⟨_, _, style, rfl, before, covered, after, rfl, nonempty, rfl, rfl⟩
      exact ⟨_, applyBatch_cons (Request.apply_styleText before after style nonempty) applied⟩

end DocBinder.Docs
