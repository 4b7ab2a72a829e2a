import DocBinder.Proofs.Buffer.Edit
import DocBinder.Resolve.Cells

/-!
# Filling slots from the highest index down

The texts of table cells are inserted into a buffer whose cells are empty. The buffer is seen as a
row of slots: units, a place for a text, and units behind it. All inserts are computed for the empty
buffer, and since they are applied from the highest index down, each still names its place when its
turn comes. The styles of the texts are computed for the filled buffer: what has been inserted
before a place has moved it.
-/

namespace DocBinder

open Docs

/-- Units with a place in them and the text that belongs there. -/
structure Slot where
  before : Buffer
  text : Text
  spans : List Span
  after : Buffer

namespace Slot

/-- Units that have no place for a text. -/
def fixed (units : Buffer) : Slot :=
  ⟨units, [], [], []⟩

/-- The units of a slot without its text. -/
def empty (slot : Slot) : Buffer :=
  slot.before ++ slot.after

/-- The units of a slot with its text. -/
def filled (slot : Slot) : Buffer :=
  slot.before ++ (slot.text.map .char ++ slot.after)

end Slot

/-- Inserts in ascending order are those of the texts of slots, the first of which begins at
`index` while all slots are empty. -/
inductive Placed : Nat → List Slot → List CellInsert → Prop where
  | nil (index : Nat) : Placed index [] []
  | skip {index : Nat} {slot : Slot} {slots : List Slot} {inserts : List CellInsert}
      (blank : slot.text = []) (following : Placed (index + slot.empty.width) slots inserts) :
      Placed index (slot :: slots) inserts
  | put {index : Nat} {slot : Slot} {slots : List Slot} {insert : CellInsert}
      {inserts : List CellInsert} (atPlace : insert.index = index + slot.before.width)
      (sameText : insert.text = slot.text) (sameSpans : insert.spans = slot.spans)
      (behind : slot.after ≠ [])
      (inText : ∀ span ∈ slot.spans, span.stop ≤ slot.text.length)
      (following : Placed (index + slot.empty.width) slots inserts) :
      Placed index (slot :: slots) (insert :: inserts)

theorem Placed.append {index : Nat} {first second : List Slot} {early late : List CellInsert}
    (placed : Placed index first early)
    (further : Placed (index + Buffer.width (first.flatMap Slot.empty)) second late) :
    Placed index (first ++ second) (early ++ late) := by
  induction placed with
  | nil index => simpa using further
  | skip blank following step =>
      refine .skip blank (step ?_)
      simpa [Nat.add_assoc] using further
  | put atPlace sameText sameSpans behind inText following step =>
      refine .put atPlace sameText sameSpans behind inText (step ?_)
      simpa [Nat.add_assoc] using further

/-- Slots of equal widths, one after another. -/
theorem Placed.flatMap_range {index width count : Nat} (slots : Nat → List Slot)
    {inserts : Nat → List CellInsert}
    (each : ∀ number < count, Placed (index + number * width) (slots number) (inserts number))
    (equal : ∀ number, Buffer.width ((slots number).flatMap Slot.empty) = width) :
    Placed index ((List.range count).flatMap slots) ((List.range count).flatMap inserts) ∧
      Buffer.width (((List.range count).flatMap slots).flatMap Slot.empty) = count * width := by
  induction count with
  | zero => exact ⟨.nil index, by simp⟩
  | succ count step =>
      rcases step fun number below => each number (by omega) with ⟨placed, total⟩
      have last := each count (by omega)
      rw [List.range_succ, List.flatMap_append, List.flatMap_append]
      simp only [List.flatMap_singleton]
      refine ⟨placed.append ?_, ?_⟩
      · rwa [total]
      · rw [List.flatMap_append, Buffer.width_append, total, equal, Nat.succ_mul]

/-- The request that inserts the text of a cell. -/
def CellInsert.request (insert : CellInsert) : Request :=
  .insertText insert.text (.at insert.index)

/-- Applied from the highest index down, the inserts fill the slots. -/
theorem Placed.applyBatch_reverse {index : Nat} {slots : List Slot} {inserts : List CellInsert}
    (placed : Placed index slots inserts) (before after : Buffer)
    (begins : index = before.width + 1) :
    applyBatch (before ++ (slots.flatMap Slot.empty ++ after))
        (inserts.reverse.map CellInsert.request) =
      .ok (before ++ (slots.flatMap Slot.filled ++ after), ⟨[], []⟩) := by
  induction placed generalizing before with
  | nil index => rfl
  | skip blank following step =>
      rename_i index slot slots inserts
      have further := step (before ++ slot.empty) (by rw [Buffer.width_append]; omega)
      simpa [Slot.filled, Slot.empty, blank] using further
  | put atPlace sameText sameSpans behind inText following step =>
      rename_i index slot slots insert inserts
      have further := step (before ++ slot.empty) (by rw [Buffer.width_append]; omega)
      have here : insert.request.apply
          (before ++ slot.before ++ (slot.after ++ (slots.flatMap Slot.filled ++ after))) =
          .ok (before ++ slot.before ++
            (slot.text.map .char ++ (slot.after ++ (slots.flatMap Slot.filled ++ after))),
            ⟨[], []⟩) := by
        have place : insert.index = (before ++ slot.before).width + 1 := by
          rw [atPlace, begins, Buffer.width_append]
          omega
        rw [CellInsert.request, place, sameText]
        exact Request.apply_insertText_at (before ++ slot.before) slot.text (by simp [behind])
      have last := applyBatch_cons here (applyBatch_nil _)
      have all := applyBatch_append further (by simpa [Slot.empty] using last)
      simpa [Slot.filled, Slot.empty] using all

/-- The texts of the spans of an insert, with their styles. -/
def CellInsert.spanTexts (insert : CellInsert) : List (Text × TextStyle) :=
  (insert.spans.filter fun span => span.start < span.stop).map fun span =>
    ((insert.text.take span.stop).drop span.start, .ofSpan span.style)

/-- Styling the spans of a text covers the characters of each span. -/
theorem CellInsert.apply_styles {insert : CellInsert} (before after : Buffer)
    (inText : ∀ span ∈ insert.spans, span.stop ≤ insert.text.length) :
    applyBatch (before ++ (insert.text.map .char ++ after)) (insert.styles (before.width + 1)) =
      .ok (before ++ (insert.text.map .char ++ after), ⟨insert.spanTexts, []⟩) := by
  refine applyBatch_map_styles fun span mem => ?_
  rw [List.mem_filter, decide_eq_true_eq] at mem
  have stop := inText span mem.1
  have split : insert.text = insert.text.take span.start ++
      ((insert.text.take span.stop).drop span.start ++ insert.text.drop span.stop) := by
    have front : (insert.text.take span.stop).take span.start = insert.text.take span.start := by
      rw [List.take_take, Nat.min_eq_left (by omega)]
    rw [← List.append_assoc, ← front, List.take_append_drop, List.take_append_drop]
  have taken : Text.width (insert.text.take span.stop) =
      Text.width (insert.text.take span.start) +
        Text.width ((insert.text.take span.stop).drop span.start) := by
    conv_lhs => rw [← List.take_append_drop span.start (insert.text.take span.stop)]
    rw [List.take_take, Nat.min_eq_left (by omega)]
    simp [Text.width]
  have nonempty : ((insert.text.take span.stop).drop span.start).map BodyUnit.char ≠ [] := by
    intro empty
    have length := congrArg List.length empty
    simp only [List.length_map, List.length_drop, List.length_take, List.length_nil] at length
    omega
  have styles := Request.apply_styleText (before ++ (insert.text.take span.start).map .char)
    ((insert.text.drop span.stop).map .char ++ after) (.ofSpan span.style) nonempty
  have whole : before ++ (insert.text.take span.start).map .char ++
      (((insert.text.take span.stop).drop span.start).map .char ++
        ((insert.text.drop span.stop).map .char ++ after)) =
      before ++ (insert.text.map .char ++ after) := by
    conv_rhs => rw [split]
    simp only [List.map_append, List.append_assoc]
  rw [whole, Buffer.width_append, Buffer.width_chars, Buffer.width_chars, Buffer.text_chars] at styles
  have start : before.width + 1 + Text.width (insert.text.take span.start) =
      before.width + Text.width (insert.text.take span.start) + 1 := by omega
  have last : before.width + 1 + Text.width (insert.text.take span.stop) =
      before.width + Text.width (insert.text.take span.start) +
        Text.width ((insert.text.take span.stop).drop span.start) + 1 := by omega
  rw [start, last]
  exact styles

/-- The styles of the texts cover the characters of their spans in the filled slots. -/
theorem Placed.applyBatch_cellStyles {index : Nat} {slots : List Slot} {inserts : List CellInsert}
    (placed : Placed index slots inserts) (shift : Nat) (before after : Buffer)
    (begins : index + shift = before.width + 1) :
    applyBatch (before ++ (slots.flatMap Slot.filled ++ after)) (cellStyles shift inserts) =
      .ok (before ++ (slots.flatMap Slot.filled ++ after),
        ⟨inserts.flatMap CellInsert.spanTexts, []⟩) := by
  induction placed generalizing shift before with
  | nil index => rfl
  | skip blank following step =>
      rename_i index slot slots inserts
      have further := step shift (before ++ slot.filled)
        (by simp only [Slot.filled, Slot.empty, blank, Buffer.width_append, List.map_nil,
              Buffer.width_nil]; omega)
      simpa using further
  | put atPlace sameText sameSpans behind inText following step =>
      rename_i index slot slots insert inserts
      have further := step (shift + Text.width slot.text) (before ++ slot.filled)
        (by simp only [Slot.filled, Slot.empty, Buffer.width_append, Buffer.width_chars]; omega)
      rw [← sameSpans, ← sameText] at inText
      have here := insert.apply_styles (before ++ slot.before)
        (slot.after ++ (slots.flatMap Slot.filled ++ after)) inText
      have place : (before ++ slot.before).width + 1 = insert.index + shift := by
        rw [atPlace, Buffer.width_append]
        omega
      rw [place, sameText] at here
      rw [cellStyles, sameText, List.flatMap_cons]
      have all := applyBatch_append here (by simpa [Slot.filled] using further)
      simpa [Slot.filled] using all

/-- The whole batch of a plan fills the slots. -/
theorem Placed.applyBatch_cellRequests {index : Nat} {slots : List Slot}
    {inserts : List CellInsert} (placed : Placed index slots inserts) (before after : Buffer)
    (begins : index = before.width + 1) :
    applyBatch (before ++ (slots.flatMap Slot.empty ++ after)) (cellRequests inserts.reverse) =
      .ok (before ++ (slots.flatMap Slot.filled ++ after),
        ⟨inserts.flatMap CellInsert.spanTexts, []⟩) := by
  have inserted := placed.applyBatch_reverse before after begins
  have styled := placed.applyBatch_cellStyles 0 before after (by rw [Nat.add_zero, begins])
  rw [cellRequests, List.reverse_reverse]
  exact applyBatch_append inserted styled

end DocBinder
