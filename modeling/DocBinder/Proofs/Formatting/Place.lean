import DocBinder.Proofs.Buffer.Marks
import DocBinder.Proofs.Content.Compile
import DocBinder.Proofs.Text.Search
import Mathlib.Data.List.Forall2

/-!
# The place of a directive

Once an anchor has been found, the ranges of its label, its literal and its spans are read off the
flat text. Wherever the anchor stands, they are there, and styling them covers units of the buffer.
Where the anchor is the text that the directive's own request inserted, they are the ranges of that
text, counted from the index at which it begins.
-/

namespace DocBinder

open Docs

namespace Text

@[simp] theorem width_nil : width [] = 0 :=
  rfl

@[simp] theorem width_cons (character : Char) (rest : Text) :
    width (character :: rest) = charWidth character + width rest :=
  rfl

@[simp] theorem width_append (first second : Text) :
    width (first ++ second) = width first + width second := by
  simp [width]

theorem width_take_succ {text : Text} {position : Nat} {character : Char}
    (found : text[position]? = some character) :
    width (text.take (position + 1)) = width (text.take position) + charWidth character := by
  rw [List.take_add_one, found]
  simp

end Text

namespace Docs

theorem getElem?_placeChars (index : Nat) (text : Text) (position : Nat) :
    (placeChars index text)[position]? =
      text[position]?.map fun character => (character, index + Text.width (text.take position)) := by
  induction text generalizing index position with
  | nil => rfl
  | cons character rest step =>
      cases position with
      | zero => rfl
      | succ position =>
          rw [placeChars, List.getElem?_cons_succ, List.getElem?_cons_succ, step]
          simp [Nat.add_assoc]

@[simp] theorem length_placeChars (index : Nat) (text : Text) :
    (placeChars index text).length = text.length := by
  induction text generalizing index with
  | nil => rfl
  | cons character rest step => simp [placeChars, step]

/-- The range of some characters of a text that stands in one piece. -/
theorem FlatText.realRange_placeChars (front back : List (Char × Nat)) (index : Nat) (text : Text)
    (start stop : Nat) (isRange : start < stop) (within : stop ≤ text.length) :
    (FlatText.mk (front ++ (placeChars index text ++ back))).realRange (front.length + start)
        (front.length + stop) =
      .ok (index + Text.width (text.take start), index + Text.width (text.take stop)) := by
  have entry (position : Nat) (below : position < text.length) :
      (front ++ (placeChars index text ++ back))[front.length + position]? =
        some (text[position], index + Text.width (text.take position)) := by
    rw [List.getElem?_append_right (by omega), Nat.add_sub_cancel_left,
      List.getElem?_append_left (by rwa [length_placeChars]), getElem?_placeChars,
      List.getElem?_eq_getElem below]
    rfl
  have last := Text.width_take_succ (List.getElem?_eq_getElem (l := text) (i := stop - 1) (by omega))
  have before : front.length + stop - 1 = front.length + (stop - 1) := by omega
  have behind : stop - 1 + 1 = stop := by omega
  rw [behind] at last
  rw [realRange, if_pos (by omega), before, entry start (by omega), entry (stop - 1) (by omega)]
  simp only [last, Nat.add_assoc]

end Docs

theorem Except.exists_mapM_forall₂ {ε α β : Type} {act : α → Except ε β} {holds : α → β → Prop}
    {items : List α} (each : ∀ item ∈ items, ∃ result, act item = .ok result ∧ holds item result) :
    ∃ results, items.mapM act = .ok results ∧ List.Forall₂ holds items results := by
  induction items with
  | nil => exact ⟨[], rfl, .nil⟩
  | cons item rest step =>
      rcases each item List.mem_cons_self with ⟨first, here, firstHolds⟩
      rcases step fun other mem => each other (List.mem_cons_of_mem _ mem) with
        ⟨others, further, othersHold⟩
      refine ⟨first :: others, ?_, .cons firstHolds othersHold⟩
      rw [List.mapM_cons, here]
      simp only [bind, Except.bind, further, pure, Except.pure]

theorem Except.exists_mapM {ε α β : Type} {act : α → Except ε β} {items : List α}
    (each : ∀ item ∈ items, ∃ result, act item = .ok result) :
    ∃ results, items.mapM act = .ok results := by
  have related : ∀ item ∈ items, ∃ result, act item = .ok result ∧ True := by
    intro item mem
    rcases each item mem with ⟨result, acts⟩
    exact ⟨result, acts, trivial⟩
  rcases exists_mapM_forall₂ related with ⟨results, acts, _⟩
  exact ⟨results, acts⟩

theorem Except.mapM_eq_map {ε α β : Type} {act : α → Except ε β} {items : List α} {image : α → β}
    (each : ∀ item ∈ items, act item = .ok (image item)) :
    items.mapM act = .ok (items.map image) := by
  induction items with
  | nil => rfl
  | cons item rest step =>
      rw [List.mapM_cons, each item List.mem_cons_self]
      simp only [bind, Except.bind, pure, Except.pure,
        step fun other mem => each other (List.mem_cons_of_mem _ mem), List.map_cons]

namespace Directive

theorem shownLabel?_ne_nil {directive : Directive} {label : Text}
    (shown : directive.shownLabel? = some label) : label ≠ [] := by
  rw [shownLabel?] at shown
  split at shown
  · cases shown
    simp
  · cases shown

theorem anchor_of_none {directive : Directive} (hidden : directive.shownLabel? = none) :
    directive.anchor = directive.literal := by
  rw [anchor, hidden]

theorem anchor_of_some {directive : Directive} {label : Text}
    (shown : directive.shownLabel? = some label) :
    directive.anchor = label ++ '\n' :: directive.literal := by
  rw [anchor, shown]

/-- Where the literal begins, when the anchor begins at an index. -/
def literalIndex (directive : Directive) (index : Nat) : Nat :=
  index + (directive.shownLabel?.map fun label => Text.width label + 1).getD 0

/-- The ranges of a directive whose anchor stands in one piece, beginning at an index. -/
def placeAt (directive : Directive) (index : Nat) : Resolved :=
  let content := directive.literalIndex index
  { directive
    start := content
    stop := content + Text.width directive.literal
    label := directive.shownLabel?.map fun label => (index, index + Text.width label)
    spans := (directive.spans.filter fun span => span.start < span.stop).map fun span =>
      (content + Text.width (directive.literal.take span.start),
        content + Text.width (directive.literal.take span.stop), span.style) }

end Directive

/-- Where the first range of a resolved directive begins: its label, or else its literal. -/
def Resolved.first (item : Resolved) : Nat :=
  (item.label.map (·.1)).getD item.start

theorem Directive.first_placeAt (directive : Directive) (index : Nat) :
    (directive.placeAt index).first = index := by
  cases shown : directive.shownLabel? with
  | none => simp [Resolved.first, placeAt, literalIndex, shown]
  | some label => simp [Resolved.first, placeAt, shown]

/-! ## Reading the ranges off a flat text -/

namespace Directive

/-- The number of characters of an anchor before its literal. -/
def lead (directive : Directive) : Nat :=
  (directive.shownLabel?.map fun label => label.length + 1).getD 0

theorem length_anchor (directive : Directive) :
    directive.anchor.length = directive.lead + directive.literal.length := by
  cases shown : directive.shownLabel? with
  | none => simp [anchor_of_none shown, lead, shown]
  | some label =>
      simp [anchor_of_some shown, lead, shown]
      omega

/-- The ranges are read one after another. -/
theorem place_eq {directive : Directive} {flat : FlatText} {position start stop : Nat}
    {label : Option (Nat × Nat)} {spans : List (Nat × Nat × SpanStyle)}
    (labelRead : directive.shownLabel?.mapM (fun label =>
      flat.realRange position (position + label.length)) = .ok label)
    (emptyRead : directive.literal = [] →
      start = (label.map (·.2 + 1)).getD 0 ∧ stop = (label.map (·.2 + 1)).getD 0)
    (literalRead : directive.literal ≠ [] →
      flat.realRange (position + directive.lead)
        (position + directive.lead + directive.literal.length) = .ok (start, stop))
    (spansRead : (directive.spans.filter fun span => span.start < span.stop).mapM (fun span => do
      let (start, stop) ← flat.realRange (position + directive.lead + span.start)
        (position + directive.lead + span.stop)
      pure (start, stop, span.style)) = .ok spans) :
    directive.place flat position = .ok ⟨directive, start, stop, label, spans⟩ := by
  simp only [bind, Except.bind] at spansRead
  cases shown : directive.shownLabel? with
  | none =>
      have lead : directive.lead = 0 := by simp [Directive.lead, shown]
      rw [lead, Nat.add_zero] at spansRead literalRead
      rw [shown] at labelRead
      by_cases blank : directive.literal = []
      · rcases emptyRead blank with ⟨rfl, rfl⟩
        simp only [place, shown, labelRead, bind, Except.bind, blank, List.isEmpty_nil, if_true,
          pure, Except.pure] at spansRead ⊢
        rw [spansRead]
      · have notEmpty : directive.literal.isEmpty = false := by simpa using blank
        simp only [place, shown, labelRead, bind, Except.bind, notEmpty, Bool.false_eq_true,
          if_false, literalRead blank, pure, Except.pure] at spansRead ⊢
        rw [spansRead]
  | some shownLabel =>
      have lead : directive.lead = shownLabel.length + 1 := by simp [Directive.lead, shown]
      rw [lead, ← Nat.add_assoc] at spansRead literalRead
      rw [shown] at labelRead
      by_cases blank : directive.literal = []
      · rcases emptyRead blank with ⟨rfl, rfl⟩
        simp only [place, shown, labelRead, bind, Except.bind, blank, List.isEmpty_nil, if_true,
          pure, Except.pure] at spansRead ⊢
        rw [spansRead]
      · have notEmpty : directive.literal.isEmpty = false := by simpa using blank
        simp only [place, shown, labelRead, bind, Except.bind, notEmpty, Bool.false_eq_true,
          if_false, literalRead blank, pure, Except.pure] at spansRead ⊢
        rw [spansRead]

section

variable {directive : Directive} {text : Text} (describes : directive.Describes text)

include describes

/-- The ranges of a directive whose own text begins at an index. -/
theorem place_own (front back : List (Char × Nat)) (index : Nat) :
    directive.place ⟨front ++ (placeChars index text ++ back)⟩ front.length =
      .ok (directive.placeAt index) := by
  have lengths := directive.length_anchor
  have length : text.length = directive.lead + directive.literal.length
      + directive.trailing.length := by
    rw [describes.whole, List.length_append, lengths]
  have takeLiteral (count : Nat) (within : count ≤ directive.literal.length) :
      index + Text.width (text.take (directive.lead + count)) =
        directive.literalIndex index + Text.width (directive.literal.take count) := by
    cases shown : directive.shownLabel? with
    | none =>
        have lead : directive.lead = 0 := by simp [Directive.lead, shown]
        rw [describes.whole, List.take_append_of_le_length (by omega), anchor_of_none shown, lead,
          Nat.zero_add, literalIndex, shown]
        rfl
    | some label =>
        have lead : directive.lead = label.length + 1 := by simp [Directive.lead, shown]
        have front : label ++ '\n' :: directive.literal =
            (label ++ ['\n']) ++ directive.literal := by simp
        have frontLength : label.length + 1 = (label ++ ['\n']).length := by simp
        rw [describes.whole, List.take_append_of_le_length (by omega), anchor_of_some shown, lead,
          front, frontLength, List.take_length_add_append, literalIndex, shown]
        simp [Nat.add_assoc]
        rfl
  refine place_eq ?_ ?_ ?_ ?_
  · cases shown : directive.shownLabel? with
    | none => rfl
    | some label =>
        have lead : directive.lead = label.length + 1 := by simp [Directive.lead, shown]
        have positive := List.length_pos_iff.mpr (shownLabel?_ne_nil shown)
        have range := FlatText.realRange_placeChars front back index text 0 label.length positive
          (by omega)
        have label : text.take label.length = label := by
          rw [describes.whole, anchor_of_some shown, List.append_assoc, List.take_left]
        rw [List.take_zero, label, Text.width_nil, Nat.add_zero, Nat.add_zero] at range
        rw [Option.mapM_some, range]
        rfl
  · intro blank
    have isLabelled : directive.shownLabel? ≠ none := by
      intro hidden
      exact describes.shows (by rw [anchor_of_none hidden, blank])
    rcases Option.ne_none_iff_exists'.mp isLabelled with ⟨label, shown⟩
    simp [literalIndex, shown, blank, Nat.add_assoc]
  · intro nonempty
    have positive := List.length_pos_iff.mpr nonempty
    have range := FlatText.realRange_placeChars front back index text directive.lead
      (directive.lead + directive.literal.length) (by omega) (by omega)
    have first := takeLiteral 0 (Nat.zero_le _)
    rw [Nat.add_zero, List.take_zero, Text.width_nil, Nat.add_zero] at first
    rw [first, takeLiteral _ (Nat.le_refl _), List.take_length, ← Nat.add_assoc] at range
    exact range
  · refine Except.mapM_eq_map ?_
    intro span mem
    rw [List.mem_filter, decide_eq_true_eq] at mem
    have within := describes.spansFit span mem.1
    have range := FlatText.realRange_placeChars front back index text
      (directive.lead + span.start) (directive.lead + span.stop) (by omega) (by omega)
    rw [takeLiteral _ (by omega), takeLiteral _ within, ← Nat.add_assoc, ← Nat.add_assoc] at range
    simp only [range, bind, Except.bind, pure, Except.pure]

/-- Styling an item whose ranges cover units only styles. -/
theorem stylesOnly_requests {buffer : Buffer} {start stop : Nat} {label : Option (Nat × Nat)}
    {spans : List (Nat × Nat × SpanStyle)}
    (labelCovers : ∀ range, label = some range → buffer.Covers range.1 range.2)
    (literalCovers : directive.literal ≠ [] → buffer.Covers start stop)
    (literalEmpty : directive.literal = [] → start = stop)
    (spansCover : ∀ span ∈ spans, buffer.Covers span.1 span.2.1) :
    StylesOnly buffer (Resolved.requests ⟨directive, start, stop, label, spans⟩) := by
  have unlabelled (notCode : ∀ language, directive.kind ≠ .code language) (style : TextStyle) :
      StylesOnly buffer [.styleText start stop style] := by
    rcases describes.labelled with hidden | ⟨language, isCode⟩
    · have shows := describes.shows
      rw [anchor_of_none hidden] at shows
      intro request mem
      rw [List.mem_singleton.mp mem]
      exact ⟨start, stop, style, rfl, literalCovers shows⟩
    · exact absurd isCode (notCode language)
  have spansStyle : StylesOnly buffer
      (spans.map fun span => .styleText span.1 span.2.1 (.ofSpan span.2.2)) := by
    intro request mem
    rcases List.mem_map.mp mem with ⟨span, spanMem, rfl⟩
    exact ⟨span.1, span.2.1, _, rfl, spansCover span spanMem⟩
  rw [Resolved.requests]
  refine StylesOnly.append ?_ spansStyle
  cases kind : directive.kind with
  | heading level => exact unlabelled (by simp [kind]) _
  | paragraph => exact unlabelled (by simp [kind]) _
  | list ordered => exact fun _ mem => absurd mem List.not_mem_nil
  | code language =>
      refine StylesOnly.append ?_ ?_
      · intro request mem
        rcases Option.map_eq_some_iff.mp (Option.mem_toList.mp mem) with ⟨range, rangeMem, rfl⟩
        exact ⟨range.1, range.2, _, rfl, labelCovers range rangeMem⟩
      · intro request mem
        split at mem
        · rename_i isRange
          rw [List.mem_singleton.mp mem]
          refine ⟨start, stop, _, rfl, literalCovers ?_⟩
          intro blank
          exact Nat.ne_of_lt isRange (literalEmpty blank)
        · exact absurd mem List.not_mem_nil

/-- Wherever an anchor may stand in the characters of a buffer, its ranges are there, and styling
them covers units of the buffer. -/
theorem exists_place {buffer : Buffer} {marks : List (Char × Nat)}
    (some : marks.Sublist (unitMarks 1 buffer)) {position : Nat}
    (within : position + directive.anchor.length ≤ marks.length) :
    ∃ item, directive.place ⟨marks⟩ position = .ok item ∧ item.directive = directive ∧
      StylesOnly buffer item.requests ∧ marks[position]?.map (·.2) = .some item.first := by
  have lengths := directive.length_anchor
  have ranges (start stop : Nat) (isRange : start < stop) (inside : stop ≤ marks.length) :
      ∃ range, (FlatText.mk marks).realRange start stop = .ok range ∧
        buffer.Covers range.1 range.2 ∧ marks[start]?.map (·.2) = .some range.1 := by
    rcases FlatText.exists_realRange isRange inside with ⟨first, last, range⟩
    rcases FlatText.covers_of_realRange some range with
      ⟨opening, _, _, _, _, found, _⟩
    exact ⟨(first, last), range, FlatText.covers some range, by rw [found]; rfl⟩
  have spansRead : ∃ spans, (directive.spans.filter fun span => span.start < span.stop).mapM
      (fun span => do
        let (start, stop) ← (FlatText.mk marks).realRange (position + directive.lead + span.start)
          (position + directive.lead + span.stop)
        pure (start, stop, span.style)) = .ok spans ∧
      List.Forall₂ (fun _ range => buffer.Covers range.1 range.2.1)
        (directive.spans.filter fun span => span.start < span.stop) spans := by
    refine Except.exists_mapM_forall₂ ?_
    intro span mem
    rw [List.mem_filter, decide_eq_true_eq] at mem
    have inLiteral := describes.spansFit span mem.1
    rcases ranges (position + directive.lead + span.start)
      (position + directive.lead + span.stop) (by omega) (by omega) with
      ⟨range, read, covers, _⟩
    exact ⟨(range.1, range.2, span.style), by simp only [read, bind, Except.bind, pure,
      Except.pure], covers⟩
  rcases spansRead with ⟨spans, spansRead, areCovers⟩
  have spansCover : ∀ span ∈ spans, buffer.Covers span.1 span.2.1 := by
    intro span mem
    rcases List.mem_iff_get.mp mem with ⟨⟨place, below⟩, rfl⟩
    exact areCovers.get (areCovers.length_eq ▸ below) below
  cases shown : directive.shownLabel? with
  | none =>
      have lead : directive.lead = 0 := by simp [Directive.lead, shown]
      have nonempty : directive.literal ≠ [] := anchor_of_none shown ▸ describes.shows
      have positive := List.length_pos_iff.mpr nonempty
      rcases ranges (position + directive.lead)
          (position + directive.lead + directive.literal.length) (by omega) (by omega) with
        ⟨range, read, covers, first⟩
      refine ⟨⟨directive, range.1, range.2, none, spans⟩,
        place_eq (by rw [shown]; rfl) (fun blank => absurd blank nonempty) (fun _ => read) spansRead,
        rfl, ?_, ?_⟩
      · exact stylesOnly_requests describes (fun _ isSome => by cases isSome)
          (fun _ => covers) (fun blank => absurd blank nonempty) spansCover
      · rw [lead, Nat.add_zero] at first
        exact first
  | some label =>
      have lead : directive.lead = label.length + 1 := by simp [Directive.lead, shown]
      have labelPositive := List.length_pos_iff.mpr (shownLabel?_ne_nil shown)
      rcases ranges position (position + label.length) (by omega) (by omega) with
        ⟨labelRange, labelRead, labelCovers, first⟩
      have labelMapped : directive.shownLabel?.mapM (fun label =>
          (FlatText.mk marks).realRange position (position + label.length)) =
          .ok (.some labelRange) := by
        rw [shown, Option.mapM_some, labelRead]
        rfl
      have labelCovers : ∀ range, Option.some labelRange = .some range →
          buffer.Covers range.1 range.2 := by
        intro range same
        cases same
        exact labelCovers
      by_cases blank : directive.literal = []
      · exact ⟨⟨directive, labelRange.2 + 1, labelRange.2 + 1, .some labelRange, spans⟩,
          place_eq labelMapped (fun _ => ⟨rfl, rfl⟩) (fun nonempty => absurd blank nonempty) spansRead,
          rfl, stylesOnly_requests describes labelCovers
            (fun nonempty => absurd blank nonempty) (fun _ => rfl) spansCover, first⟩
      · have positive := List.length_pos_iff.mpr blank
        rcases ranges (position + directive.lead)
            (position + directive.lead + directive.literal.length) (by omega) (by omega)
          with ⟨range, read, covers, _⟩
        exact ⟨⟨directive, range.1, range.2, .some labelRange, spans⟩,
          place_eq labelMapped (fun isEmpty => absurd isEmpty blank) (fun _ => read) spansRead,
          rfl, stylesOnly_requests describes labelCovers
            (fun _ => covers) (fun isEmpty => absurd isEmpty blank) spansCover, first⟩

end

end Directive

end DocBinder
