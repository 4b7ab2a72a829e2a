import DocBinder.Proofs.Formatting.Lookups
import Mathlib.Data.List.Chain

/-!
# What resolved directives hit

Nothing is assumed here of how a snapshot came about, but that the indices of its characters grow by
at least their widths. Whatever directives are looked up in it, in whatever scope: each one that is
resolved covers its own text, and the ranges of one after another never overlap. Both searches keep
the order. The forward one begins behind the last anchor, and the search of the whole document passes
over everything that begins before the end of the last range.
-/

namespace DocBinder

open Docs

/-! ## Characters in a range -/

namespace Docs.FlatText

/-- From each character to the next, the index grows by at least the width of the first one. -/
def Grows (flat : FlatText) : Prop :=
  flat.marks.IsChain fun first second => first.2 + Text.charWidth first.1 ≤ second.2

/-- The characters whose indices lie in a range. -/
def covered (flat : FlatText) (start stop : Nat) : Text :=
  (flat.marks.filter fun mark => start ≤ mark.2 && mark.2 < stop).map (·.1)

/-- An index lies between the characters before a position and those from it on. -/
structure Cuts (flat : FlatText) (position index : Nat) : Prop where
  before : ∀ mark ∈ flat.marks.take position, mark.2 < index
  behind : ∀ mark ∈ flat.marks.drop position, index ≤ mark.2

variable {flat : FlatText}

theorem Grows.pairwise (grows : flat.Grows) :
    flat.marks.Pairwise fun first second => first.2 + Text.charWidth first.1 ≤ second.2 := by
  have transitive : IsTrans (Char × Nat) fun first second =>
      first.2 + Text.charWidth first.1 ≤ second.2 :=
    ⟨fun first second third begins follows => by omega⟩
  exact List.isChain_iff_pairwise.mp grows

theorem covered_of_cuts {first last start stop : Nat} (order : first ≤ last)
    (begins : flat.Cuts first start) (ends : flat.Cuts last stop) :
    flat.covered start stop = (flat.text.drop first).take (last - first) := by
  have parts : flat.marks = flat.marks.take first ++
      ((flat.marks.drop first).take (last - first) ++ flat.marks.drop last) := by
    have behind : flat.marks.drop last = (flat.marks.drop first).drop (last - first) := by
      rw [List.drop_drop, Nat.add_sub_cancel' order]
    rw [behind, List.take_append_drop, List.take_append_drop]
  have early : (flat.marks.take first).filter
      (fun mark => start ≤ mark.2 && mark.2 < stop) = [] := by
    rw [List.filter_eq_nil_iff]
    intro mark mem
    have below := begins.before mark mem
    simp only [Bool.and_eq_true, decide_eq_true_eq]
    omega
  have late : (flat.marks.drop last).filter
      (fun mark => start ≤ mark.2 && mark.2 < stop) = [] := by
    rw [List.filter_eq_nil_iff]
    intro mark mem
    have above := ends.behind mark mem
    simp only [Bool.and_eq_true, decide_eq_true_eq]
    omega
  have between : ((flat.marks.drop first).take (last - first)).filter
      (fun mark => start ≤ mark.2 && mark.2 < stop) =
        (flat.marks.drop first).take (last - first) := by
    rw [List.filter_eq_self]
    intro mark mem
    have above := begins.behind mark (List.mem_of_mem_take mem)
    rw [← List.drop_take] at mem
    have below := ends.before mark (List.mem_of_mem_drop mem)
    simp only [Bool.and_eq_true, decide_eq_true_eq]
    exact ⟨above, below⟩
  rw [covered, parts, List.filter_append, List.filter_append, early, late, between,
    List.nil_append, List.append_nil, text, List.map_take, List.map_drop]

theorem cuts_start (grows : flat.Grows) {position : Nat} {mark : Char × Nat}
    (there : flat.marks[position]? = some mark) : flat.Cuts position mark.2 := by
  rcases List.getElem?_eq_some_iff.mp there with ⟨bound, isMark⟩
  have pairs := grows.pairwise
  rw [← List.take_append_drop position flat.marks, List.drop_eq_getElem_cons bound, isMark,
    List.pairwise_append, List.pairwise_cons] at pairs
  rcases pairs with ⟨_, ⟨later, _⟩, across⟩
  refine ⟨fun other mem => ?_, fun other mem => ?_⟩
  · have apart := across other mem mark List.mem_cons_self
    have positive := charWidth_pos other.1
    omega
  · rw [List.drop_eq_getElem_cons bound, isMark] at mem
    rcases List.mem_cons.mp mem with rfl | mem
    · exact Nat.le_refl _
    · have apart := later other mem
      omega

theorem cuts_stop (grows : flat.Grows) {position : Nat} {mark : Char × Nat}
    (there : flat.marks[position]? = some mark) :
    flat.Cuts (position + 1) (mark.2 + Text.charWidth mark.1) := by
  rcases List.getElem?_eq_some_iff.mp there with ⟨bound, isMark⟩
  have pairs := grows.pairwise
  rw [← List.take_append_drop position flat.marks, List.drop_eq_getElem_cons bound, isMark,
    List.pairwise_append, List.pairwise_cons] at pairs
  refine ⟨fun other mem => ?_, pairs.2.1.1⟩
  have positive := charWidth_pos mark.1
  rw [List.take_add_one, there] at mem
  rcases List.mem_append.mp mem with mem | mem
  · have before := (cuts_start grows there).before other mem
    omega
  · rw [Option.toList_some, List.mem_singleton] at mem
    subst mem
    omega

theorem covered_self (flat : FlatText) (index : Nat) : flat.covered index index = [] := by
  have none : flat.marks.filter (fun mark => index ≤ mark.2 && mark.2 < index) = [] := by
    rw [List.filter_eq_nil_iff]
    intro mark _
    simp only [Bool.and_eq_true, decide_eq_true_eq]
    omega
  rw [covered, none, List.map_nil]

/-- The range of positions that are there begins and ends between characters. -/
theorem exists_cuts (grows : flat.Grows) (first last : Nat) (isRange : first < last)
    (within : last ≤ flat.marks.length) :
    ∃ range, flat.realRange first last = .ok range ∧
      flat.marks[first]?.map (·.2) = some range.1 ∧ flat.Cuts first range.1 ∧
      flat.Cuts last range.2 := by
  have opening := List.getElem?_eq_getElem (l := flat.marks) (i := first) (by omega)
  have closing := List.getElem?_eq_getElem (l := flat.marks) (i := last - 1) (by omega)
  have ends := cuts_stop grows closing
  rw [Nat.sub_add_cancel (by omega)] at ends
  refine ⟨(flat.marks[first].2, flat.marks[last - 1].2 + Text.charWidth flat.marks[last - 1].1),
    ?_, by rw [opening]; rfl, cuts_start grows opening, ends⟩
  rw [realRange, if_pos isRange, opening, closing]

end Docs.FlatText

/-! ## One directive -/

/-- A resolved directive covers its own text in a flat text: its literal, its label and its spans.
The label has a line feed of its own behind it, and that stands between the label and the literal.
Only where the literal is empty may something else keep them apart, for then the literal is put one
index unit behind the label. -/
structure Resolved.Hits (flat : FlatText) (item : Resolved) : Prop where
  literal : flat.covered item.start item.stop = item.directive.literal
  empty : item.directive.literal = [] → item.stop = item.start
  label : item.label.map (fun range => flat.covered range.1 range.2) = item.directive.shownLabel?
  separated : ∀ range, item.label = some range → ∃ index, range.2 ≤ index ∧
    flat.covered range.2 (index + 1) = ['\n'] ∧
    (item.directive.literal = [] → item.start = range.2 + 1) ∧
    (flat.covered range.2 item.start = ['\n'] ↔
      item.directive.literal ≠ [] ∨ index = range.2)
  spans : List.Forall₂
    (fun span range => range.2.2 = span.style ∧ flat.covered range.1 range.2.1 =
      (item.directive.literal.drop span.start).take (span.stop - span.start))
    (item.directive.spans.filter fun span => span.start < span.stop) item.spans

namespace Directive

variable {directive : Directive} {flat : FlatText} {position : Nat}

theorem drop_lead (directive : Directive) :
    directive.anchor.drop directive.lead = directive.literal := by
  cases shown : directive.shownLabel? with
  | none => simp [anchor_of_none shown, lead, shown]
  | some label => simp [anchor_of_some shown, lead, shown]

variable (grows : flat.Grows) (stands : directive.anchor.StandsAt flat.text position)

include grows stands

/-- A part of an anchor is covered by its range. -/
theorem exists_part (start stop : Nat) (isRange : start < stop)
    (within : stop ≤ directive.anchor.length) :
    ∃ range, flat.realRange (position + start) (position + stop) = .ok range ∧
      flat.marks[position + start]?.map (·.2) = some range.1 ∧
      flat.Cuts (position + start) range.1 ∧ flat.Cuts (position + stop) range.2 ∧
      flat.covered range.1 range.2 = (directive.anchor.drop start).take (stop - start) := by
  have nonempty : directive.anchor ≠ [] := by
    rintro isEmpty
    rw [isEmpty, List.length_nil] at within
    omega
  have inside := stands.within nonempty
  rw [FlatText.text, List.length_map] at inside
  rcases FlatText.exists_cuts grows (position + start) (position + stop)
    (by omega) (by omega) with ⟨range, read, first, begins, ends⟩
  refine ⟨range, read, first, begins, ends, ?_⟩
  rcases stands with ⟨behind, split⟩
  rw [FlatText.covered_of_cuts (by omega) begins ends, ← List.drop_drop, ← split,
    List.drop_append_of_le_length (by omega), Nat.add_sub_add_left,
    List.take_append_of_le_length (by rw [List.length_drop]; omega)]

theorem exists_spans
    (spansFit : ∀ span ∈ directive.spans, span.stop ≤ directive.literal.length) :
    ∃ spans, (directive.spans.filter fun span => span.start < span.stop).mapM (fun span => do
        let (start, stop) ← flat.realRange (position + directive.lead + span.start)
          (position + directive.lead + span.stop)
        pure (start, stop, span.style)) = .ok spans ∧
      List.Forall₂
        (fun span range => range.2.2 = span.style ∧ flat.covered range.1 range.2.1 =
          (directive.literal.drop span.start).take (span.stop - span.start))
        (directive.spans.filter fun span => span.start < span.stop) spans := by
  have lengths := directive.length_anchor
  refine Except.exists_mapM_forall₂ ?_
  intro span mem
  rw [List.mem_filter, decide_eq_true_eq] at mem
  have within := spansFit span mem.1
  rcases exists_part grows stands (directive.lead + span.start)
    (directive.lead + span.stop) (by omega) (by omega) with
    ⟨range, read, _, _, _, covers⟩
  rw [← Nat.add_assoc, ← Nat.add_assoc] at read
  rw [Nat.add_sub_add_left, ← List.drop_drop, drop_lead] at covers
  exact ⟨(range.1, range.2, span.style), by simp only [read, bind, Except.bind, pure, Except.pure],
    rfl, covers⟩

/-- The literal of a directive that has one is covered by its range. -/
theorem exists_literal (nonempty : directive.literal ≠ []) :
    ∃ range, flat.realRange (position + directive.lead)
        (position + directive.lead + directive.literal.length) = .ok range ∧
      flat.marks[position + directive.lead]?.map (·.2) = some range.1 ∧
      flat.Cuts (position + directive.lead) range.1 ∧
      flat.Cuts (position + directive.anchor.length) range.2 ∧
      flat.covered range.1 range.2 = directive.literal := by
  have lengths := directive.length_anchor
  have positive := List.length_pos_iff.mpr nonempty
  rcases exists_part grows stands directive.lead directive.anchor.length
    (by omega) (Nat.le_refl _) with ⟨range, read, first, begins, ends, covers⟩
  rw [drop_lead, lengths, Nat.add_sub_cancel_left, List.take_length] at covers
  rw [lengths, ← Nat.add_assoc] at read
  exact ⟨range, read, first, begins, ends, covers⟩

/-- The label of a directive is covered by its range, and the next character is a line feed. -/
theorem exists_label {label : Text} (shown : directive.shownLabel? = some label) :
    ∃ range index, flat.realRange position (position + label.length) = .ok range ∧
      flat.marks[position]?.map (·.2) = some range.1 ∧
      flat.Cuts (position + label.length) range.2 ∧
      flat.covered range.1 range.2 = label ∧
      flat.marks[position + label.length]? = some ('\n', index) := by
  have positive := List.length_pos_iff.mpr (shownLabel?_ne_nil shown)
  have anchor := anchor_of_some shown
  rcases exists_part grows stands 0 label.length positive
    (by rw [anchor, List.length_append]; omega) with ⟨range, read, first, _, ends, covers⟩
  rw [List.drop_zero, Nat.sub_zero, anchor, List.take_left] at covers
  rcases stands with ⟨behind, split⟩
  have lineFeed : flat.text[position + label.length]? = some '\n' := by
    rw [← List.getElem?_drop, ← split, anchor, List.append_assoc,
      List.getElem?_append_right (Nat.le_refl _), Nat.sub_self]
    rfl
  rw [FlatText.text, List.getElem?_map, Option.map_eq_some_iff] at lineFeed
  rcases lineFeed with ⟨⟨_, index⟩, found, rfl⟩
  exact ⟨range, index, read, first, ends, covers, found⟩

/-- Where an anchor stands, the ranges of its directive are read off its own text. They begin with
the first character of the anchor and end before whatever is behind it. -/
theorem exists_hits (nonempty : directive.anchor ≠ [])
    (spansFit : ∀ span ∈ directive.spans, span.stop ≤ directive.literal.length) :
    ∃ item, directive.place flat position = .ok item ∧ item.directive = directive ∧
      item.Hits flat ∧ flat.marks[position]?.map (·.2) = some item.first ∧
      ∀ mark ∈ flat.marks.drop (position + directive.anchor.length), item.stop ≤ mark.2 := by
  have lengths := directive.length_anchor
  rcases exists_spans grows stands spansFit with ⟨spans, spansRead, spansCover⟩
  cases shown : directive.shownLabel? with
  | none =>
      have isLiteral := anchor_of_none shown
      have lead : directive.lead = 0 := by simp [Directive.lead, shown]
      have shows : directive.literal ≠ [] := isLiteral ▸ nonempty
      rcases exists_literal grows stands shows with ⟨range, read, first, begins, ends, covers⟩
      refine ⟨⟨directive, range.1, range.2, none, spans⟩,
        place_eq (by rw [shown]; rfl) (fun blank => absurd blank shows) (fun _ => read) spansRead,
        rfl, ⟨covers, fun blank => absurd blank shows, shown.symm, by rintro _ ⟨⟩, spansCover⟩,
        ?_, ends.behind⟩
      rwa [lead, Nat.add_zero] at first
  | some label =>
      have lead : directive.lead = label.length + 1 := by simp [Directive.lead, shown]
      rcases exists_label grows stands shown with
        ⟨labelRange, index, labelRead, first, labelEnds, labelCovers, lineFeed⟩
      have labelMapped : directive.shownLabel?.mapM (fun label =>
          flat.realRange position (position + label.length)) = .ok (some labelRange) := by
        rw [shown, Option.mapM_some, labelRead]
        rfl
      have atFeed : flat.Cuts (position + label.length) index := FlatText.cuts_start grows lineFeed
      have behindFeed : flat.Cuts (position + label.length + 1) (index + 1) :=
        FlatText.cuts_stop grows lineFeed
      have within := (List.getElem?_eq_some_iff.mp lineFeed).1
      have notBefore : labelRange.2 ≤ index := by
        refine labelEnds.behind ('\n', index) ?_
        rw [List.mem_iff_getElem?]
        exact ⟨0, by rw [List.getElem?_drop]; exact lineFeed⟩
      have feed : (flat.text.drop (position + label.length)).take 1 = ['\n'] := by
        rw [FlatText.text, ← List.map_drop, List.drop_eq_getElem_cons within,
          (List.getElem?_eq_some_iff.mp lineFeed).2]
        rfl
      have feedCovers : flat.covered labelRange.2 (index + 1) = ['\n'] := by
        have one : position + label.length + 1 - (position + label.length) = 1 := by omega
        rw [FlatText.covered_of_cuts (Nat.le_succ _) labelEnds behindFeed, Nat.succ_eq_add_one, one]
        exact feed
      by_cases blank : directive.literal = []
      · refine ⟨⟨directive, labelRange.2 + 1, labelRange.2 + 1, some labelRange, spans⟩,
          place_eq labelMapped (fun _ => ⟨rfl, rfl⟩) (fun shows => absurd blank shows) spansRead,
          rfl, ⟨?_, fun _ => rfl, ?_, ?_, spansCover⟩, first, ?_⟩
        · rw [FlatText.covered_self, blank]
        · rw [Option.map_some, labelCovers, shown]
        · rintro range ⟨⟩
          refine ⟨index, notBefore, feedCovers, fun _ => rfl, ?_, ?_⟩
          · intro covers
            refine .inr (Nat.le_antisymm (Nat.le_of_not_lt fun apart => ?_) notBefore)
            have between : flat.Cuts (position + label.length) (labelRange.2 + 1) :=
              ⟨fun mark mem => Nat.lt_succ_of_lt (labelEnds.before mark mem),
                fun mark mem => Nat.le_trans apart (atFeed.behind mark mem)⟩
            rw [FlatText.covered_of_cuts (Nat.le_refl _) labelEnds between, Nat.sub_self,
              List.take_zero] at covers
            cases covers
          · rintro (shows | rfl)
            · exact absurd blank shows
            · exact feedCovers
        · intro mark mem
          rw [lengths, lead, blank, List.length_nil, Nat.add_zero, ← Nat.add_assoc] at mem
          have behind := behindFeed.behind mark mem
          dsimp only
          omega
      · rcases exists_literal grows stands blank with ⟨range, read, _, begins, ends, covers⟩
        refine ⟨⟨directive, range.1, range.2, some labelRange, spans⟩,
          place_eq labelMapped (fun isEmpty => absurd isEmpty blank) (fun _ => read) spansRead, rfl,
          ⟨covers, fun isEmpty => absurd isEmpty blank, ?_, ?_, spansCover⟩, first, ends.behind⟩
        · rw [Option.map_some, labelCovers, shown]
        · rintro _ ⟨⟩
          refine ⟨index, notBefore, feedCovers, fun isEmpty => absurd isEmpty blank,
            fun _ => .inl blank, fun _ => ?_⟩
          rw [lead] at begins
          rw [FlatText.covered_of_cuts (by omega) labelEnds begins, Nat.add_sub_add_left,
            Nat.add_sub_cancel_left]
          exact feed

end Directive

/-! ## All directives -/

/-- The anchor of a directive stands at a position that is not before an index. -/
structure Directive.FollowsAt (directive : Directive) (flat : FlatText) (index position : Nat) :
    Prop where
  stands : directive.anchor.StandsAt flat.text position
  behind : ∀ mark, flat.marks[position]? = some mark → index ≤ mark.2

section Search

variable {scope : FormattingScope} {directive : Directive} {lastStop : Nat}

/-- A directive that is found is found behind the last range. The cursor is behind it already, and
the search of the whole document passes over what begins before it ends. -/
theorem Directive.FoundAt.follows {floor cursor position : Nat}
    (found : directive.FoundAt scope floor cursor lastStop position)
    (apart : ∀ mark ∈ scope.flat.marks.drop cursor, lastStop ≤ mark.2) :
    directive.FollowsAt scope.flat lastStop position := by
  refine ⟨found.stands.of_append, fun mark there => ?_⟩
  cases found with
  | forward finds =>
      have atLeast := (Text.find?_eq_some finds).1
      have fromCursor : cursor ≤ position := Nat.le_trans (Nat.le_max_left ..) atLeast
      apply apart mark
      rw [List.mem_iff_getElem?]
      exact ⟨position - cursor, by rw [List.getElem?_drop, Nat.add_sub_cancel' fromCursor, there]⟩
  | whole accepted =>
      rcases accepted.heeds with ⟨range, read, behind, _⟩
      rw [FlatText.realRange] at read
      split at read
      · rw [there] at read
        split at read
        · rename_i isFirst _
          cases isFirst
          cases read
          exact behind
        · cases read
      · cases read

theorem le_advance (flat : FlatText) (directive : Directive) (position : Nat) :
    position + directive.anchor.length ≤ advance flat directive position := by
  rw [advance]
  split <;> omega

/-- The ranges of items follow each other. -/
def Ordered (items : List Resolved) : Prop :=
  items.IsChain fun earlier later => earlier.stop ≤ later.first

/-- What is looked up is resolved to ranges that cover the own texts, one behind the other: the cursor
stays behind the last range. -/
theorem Lookups.hits (grows : scope.flat.Grows) {floor cursor : Nat}
    {outcomes : List (Directive × Option Resolved)}
    (looksUp : Lookups scope floor cursor lastStop outcomes)
    (spansFit : ∀ outcome ∈ outcomes, ∀ span ∈ outcome.1.spans,
      span.stop ≤ outcome.1.literal.length)
    (apart : ∀ mark ∈ scope.flat.marks.drop cursor, lastStop ≤ mark.2) :
    (∀ item ∈ outcomes.filterMap (·.2), item.Hits scope.flat) ∧
      Ordered (outcomes.filterMap (·.2)) ∧
      ∀ item ∈ (outcomes.filterMap (·.2)).head?, lastStop ≤ item.first := by
  induction looksUp with
  | done cursor lastStop =>
      exact ⟨fun _ mem => absurd mem List.not_mem_nil, .nil, fun _ mem => absurd mem (by simp)⟩
  | blank isBlank following step =>
      exact step (fun outcome mem => spansFit outcome (List.mem_cons_of_mem _ mem)) apart
  | absent shows misses following step =>
      exact step (fun outcome mem => spansFit outcome (List.mem_cons_of_mem _ mem)) apart
  | @resolved cursor lastStop position directive log item rest shows finds places following step =>
      rcases (foundAt_of_findAnchor finds).follows apart with ⟨stands, behind⟩
      rcases Directive.exists_hits grows stands shows (spansFit _ List.mem_cons_self) with
        ⟨_, placesHere, _, hits, first, ends⟩
      rw [places] at placesHere
      cases placesHere
      have begins : lastStop ≤ item.first := by
        rcases Option.map_eq_some_iff.mp first with ⟨mark, there, isFirst⟩
        exact isFirst ▸ behind mark there
      have apartHere : ∀ mark ∈ scope.flat.marks.drop (advance scope.flat directive position),
          item.stop ≤ mark.2 := by
        intro mark mem
        apply ends mark
        have further := le_advance scope.flat directive position
        rw [← Nat.add_sub_cancel' further, ← List.drop_drop] at mem
        exact List.mem_of_mem_drop mem
      rcases step (fun outcome mem => spansFit outcome (List.mem_cons_of_mem _ mem)) apartHere with
        ⟨holds, ordered, head⟩
      refine ⟨?_, List.isChain_cons.mpr ⟨head, ordered⟩, ?_⟩
      · intro other mem
        rcases List.mem_cons.mp mem with rfl | mem
        · exact hits
        · exact holds other mem
      · intro other mem
        cases mem
        exact begins

/-- The walk through the directives keeps the cursor behind the last range. -/
theorem exists_resolveFrom (grows : scope.flat.Grows) {directives : List Directive}
    (spansFit : ∀ directive ∈ directives, ∀ span ∈ directive.spans,
      span.stop ≤ directive.literal.length)
    {cursor : Nat} (apart : ∀ mark ∈ scope.flat.marks.drop cursor, lastStop ≤ mark.2)
    (floor : Nat) :
    ∃ resolved, (resolveFrom scope floor cursor lastStop directives).resolved = .ok resolved ∧
      (resolved.map (·.directive)).Sublist directives ∧
      (∀ item ∈ resolved, item.Hits scope.flat) ∧ Ordered resolved ∧
      ∀ item ∈ resolved.head?, lastStop ≤ item.first := by
  rcases exists_resolveFrom_of_spansFit spansFit scope floor cursor lastStop with
    ⟨resolved, resolves⟩
  rcases exists_lookups resolves with ⟨outcomes, looksUp, rfl, rfl⟩
  refine ⟨_, resolves, looksUp.sublist_directives, looksUp.hits grows ?_ apart⟩
  intro outcome mem
  exact spansFit outcome.1 (List.mem_map_of_mem mem)

end Search

/-- Whatever directives are looked up, with spans that lie within their literals, in whatever
snapshot of growing indices and in whatever scope: looking them up never fails. It resolves some of
them in the order of their requests. Each of these covers its own text, and the ranges of one after
another do not overlap. -/
theorem resolve_hits {directives : List Directive} {snapshot : Snapshot}
    (grows : (snapshot.flatten false).Grows)
    (spansFit : ∀ directive ∈ directives, ∀ span ∈ directive.spans,
      span.stop ≤ directive.literal.length)
    (start : Nat) (offsets : Option (List Nat)) (stop : Option Nat) :
    ∃ resolved, (resolve directives snapshot start offsets stop).resolved = .ok resolved ∧
      (resolved.map (·.directive)).Sublist
        (directives.mergeSort fun first second => first.request ≤ second.request) ∧
      (∀ item ∈ resolved, item.Hits (snapshot.flatten false)) ∧ Ordered resolved := by
  have fits : ∀ directive ∈ directives.mergeSort fun first second => first.request ≤ second.request,
      ∀ span ∈ directive.spans, span.stop ≤ directive.literal.length :=
    fun directive mem => spansFit directive (List.mem_mergeSort.mp mem)
  let scope : FormattingScope :=
    ⟨snapshot.flatten false, start, stop.getD snapshot.endIndex, offsets⟩
  have growsHere : scope.flat.Grows := grows
  have apart : ∀ mark ∈ scope.flat.marks.drop (scope.flat.positionAtOrAfter start),
      0 ≤ mark.2 := fun mark _ => Nat.zero_le mark.2
  rcases exists_resolveFrom growsHere fits apart (scope.flat.positionAtOrAfter start) with
    ⟨resolved, resolves, some, holds, ordered, _⟩
  refine ⟨resolved, ?_, some, holds, ordered⟩
  rw [resolve]
  dsimp only
  rw [resolves]

/-! ## A label with an image behind it -/

/-- A line with an image at its end, and an empty line. -/
def imageBehindLabel : Snapshot :=
  ⟨[.paragraph 1 5 [⟨1, 3, "sh".toList⟩, ⟨4, 5, ['\n']⟩], .paragraph 5 6 [⟨5, 6, ['\n']⟩]],
    .null, .null⟩

/-- A code block that shows nothing but its label. -/
def labelOnly : Directive :=
  ⟨.code (some "sh".toList), [], 0, some "sh".toList, [], ['\n', '\n']⟩

theorem resolve_hits_labelOnly :
    (imageBehindLabel.flatten false).Grows ∧
      ∃ resolved, (resolve [labelOnly] imageBehindLabel 1 none none).resolved = .ok resolved ∧
        (resolved.map (·.directive)).Sublist
          ([labelOnly].mergeSort fun first second => first.request ≤ second.request) ∧
        (∀ item ∈ resolved, item.Hits (imageBehindLabel.flatten false)) ∧ Ordered resolved :=
  have grows : (imageBehindLabel.flatten false).Grows := by
    unfold FlatText.Grows
    decide
  ⟨grows, resolve_hits grows (by decide) 1 none none⟩

/-- The line feed behind a label need not stand before what is taken for an empty literal. -/
theorem not_separated :
    ¬ ∀ (directives : List Directive) (snapshot : Snapshot), (snapshot.flatten false).Grows →
      (∀ directive ∈ directives, ∀ span ∈ directive.spans,
        span.stop ≤ directive.literal.length) →
      ∀ resolved, (resolve directives snapshot 1 none none).resolved = .ok resolved →
        ∀ item ∈ resolved, ∀ range, item.label = some range →
          (snapshot.flatten false).covered range.2 item.start = ['\n'] := by
  intro separated
  have found : (resolve [labelOnly] imageBehindLabel 1 none none).resolved =
      .ok [⟨labelOnly, 4, 4, some (1, 3), []⟩] := by decide +kernel
  have between := separated [labelOnly] imageBehindLabel
    (by unfold FlatText.Grows; decide) (by decide) _ found _ List.mem_cons_self _ rfl
  revert between
  decide

end DocBinder
