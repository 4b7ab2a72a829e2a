import DocBinder.Proofs.Formatting.Hits

/-!
# Leaving the scope

The forward search begins where the scope begins, and the search of the whole document passes over
everything before it, unless a title is looked up. So no other text is ever found before the scope.
Behind the scope it is different: the search of the whole document heeds the end of the scope, while
the forward search goes on to the end of the text. Whether a range can lie beyond the end is a
question about the text alone, namely how far the lines reach that end behind the beginning.
-/

namespace DocBinder

open Docs

/-! ## Characters behind an index -/

namespace Docs.FlatText

variable {flat : FlatText} {start first last : Nat}

/-- The indices up to which something can be found that begins at an index or behind it: the ends of
lines that show something, and one more where an empty line follows. -/
inductive Reaches (flat : FlatText) (start : Nat) : Nat → Prop where
  | line {position index : Nat} {character : Char}
      (there : flat.marks[position]? = some (character, index)) (behind : start ≤ index)
      (ends : Text.StandsAt ['\n'] flat.text (position + 1)) :
      Reaches flat start (index + Text.charWidth character)
  | blank {position index : Nat} {character : Char}
      (there : flat.marks[position]? = some (character, index)) (behind : start ≤ index)
      (ends : Text.StandsAt ['\n', '\n'] flat.text (position + 1)) :
      Reaches flat start (index + Text.charWidth character + 1)

theorem exists_marks_of_realRange {range : Nat × Nat}
    (read : flat.realRange first last = .ok range) :
    first < last ∧ (∃ character, flat.marks[first]? = some (character, range.1)) ∧
      ∃ character index, flat.marks[last - 1]? = some (character, index) ∧
        range.2 = index + Text.charWidth character := by
  rw [realRange] at read
  split at read
  · rename_i isRange
    split at read
    · rename_i opening index character closing firstFound lastFound
      cases read
      exact ⟨isRange, ⟨opening, firstFound⟩, character, closing, lastFound, rfl⟩
    · cases read
  · cases read

theorem exists_split_of_ascending {marks : List (Char × Nat)}
    (ascends : marks.Pairwise fun first second => first.2 ≤ second.2) (start : Nat) :
    ∃ early late, marks = early ++ late ∧ (∀ mark ∈ early, mark.2 < start) ∧
      ∀ mark ∈ late, start ≤ mark.2 := by
  induction ascends with
  | nil => exact ⟨[], [], rfl, by simp, by simp⟩
  | @cons mark rest before _ step =>
      rcases Nat.lt_or_ge mark.2 start with below | above
      · rcases step with ⟨early, late, rfl, earlyBelow, lateAbove⟩
        refine ⟨mark :: early, late, rfl, ?_, lateAbove⟩
        intro other mem
        rcases List.mem_cons.mp mem with rfl | mem
        · exact below
        · exact earlyBelow other mem
      · refine ⟨[], mark :: rest, rfl, by simp, ?_⟩
        intro other mem
        rcases List.mem_cons.mp mem with rfl | mem
        · exact above
        · exact Nat.le_trans above (before other mem)

/-- In a text of ascending indices, the position of an index parts the characters before it from the
others. -/
theorem cuts_positionAtOrAfter (ascends : flat.offsets.Pairwise (· ≤ ·)) (start : Nat) :
    flat.Cuts (flat.positionAtOrAfter start) start := by
  rcases flat with ⟨marks⟩
  rw [offsets, List.pairwise_map] at ascends
  rcases exists_split_of_ascending ascends start with ⟨early, late, rfl, below, above⟩
  rw [positionAtOrAfter_append below above]
  constructor
  · rwa [List.take_left]
  · rwa [List.drop_left]

theorem behind_of_realRange (ascends : flat.offsets.Pairwise (· ≤ ·)) {range : Nat × Nat}
    (read : flat.realRange first last = .ok range) (behind : start ≤ range.1) :
    ∀ mark ∈ flat.marks.drop first, start ≤ mark.2 := by
  rcases exists_marks_of_realRange read with ⟨_, ⟨character, found⟩, _⟩
  rcases List.getElem?_eq_some_iff.mp found with ⟨bound, isMark⟩
  rw [offsets, List.pairwise_map] at ascends
  have ascendsHere := ascends.sublist (List.drop_sublist first flat.marks)
  rw [List.drop_eq_getElem_cons bound, isMark, List.pairwise_cons] at ascendsHere
  intro mark mem
  rw [List.drop_eq_getElem_cons bound, isMark] at mem
  rcases List.mem_cons.mp mem with rfl | mem
  · exact behind
  · exact Nat.le_trans behind (ascendsHere.1 mark mem)

theorem positionAtOrAfter_le (ascends : flat.offsets.Pairwise (· ≤ ·)) {position : Nat}
    {mark : Char × Nat} (there : flat.marks[position]? = some mark) (behind : start ≤ mark.2) :
    flat.positionAtOrAfter start ≤ position := by
  apply Nat.le_of_not_lt
  intro before
  have mem : mark ∈ flat.marks.take (flat.positionAtOrAfter start) := by
    apply List.mem_of_getElem? (i := position)
    rw [List.getElem?_take_of_lt before, there]
  have below := (cuts_positionAtOrAfter ascends start).before mark mem
  omega

theorem standsAt_cons {position index : Nat} {character : Char} {rest : Text}
    (there : flat.marks[position]? = some (character, index))
    (ends : rest.StandsAt flat.text (position + 1)) :
    Text.StandsAt (character :: rest) flat.text position := by
  have shown : flat.text[position]? = some character := by
    rw [text, List.getElem?_map, there]
    rfl
  rcases List.getElem?_eq_some_iff.mp shown with ⟨bound, isCharacter⟩
  rw [Text.StandsAt, List.drop_eq_getElem_cons bound, isCharacter]
  exact (List.prefix_cons_inj character).mpr ends

theorem exists_mark_of_standsAt {position : Nat} {character : Char} {rest : Text}
    (stands : Text.StandsAt (character :: rest) flat.text position) :
    ∃ index, flat.marks[position]? = some (character, index) := by
  rcases stands with ⟨after, split⟩
  have shown : flat.text[position]? = some character := by
    rw [← List.head?_drop, ← split]
    rfl
  rw [text, List.getElem?_map, Option.map_eq_some_iff] at shown
  rcases shown with ⟨⟨_, index⟩, found, rfl⟩
  exact ⟨index, found⟩

theorem Grows.le_of_getElem? (grows : flat.Grows) {position : Nat} {mark next : Char × Nat}
    (there : flat.marks[position]? = some mark) (follows : flat.marks[position + 1]? = some next) :
    mark.2 + Text.charWidth mark.1 ≤ next.2 := by
  rcases List.getElem?_eq_some_iff.mp there with ⟨bound, rfl⟩
  rcases List.getElem?_eq_some_iff.mp follows with ⟨nextBound, rfl⟩
  exact List.isChain_iff_getElem.mp grows position nextBound

theorem realRange_single {position index : Nat} {character : Char}
    (there : flat.marks[position]? = some (character, index)) :
    flat.realRange position (position + 1) =
      .ok (index, index + Text.charWidth character) := by
  rw [realRange, if_pos (Nat.lt_succ_self position), Nat.add_sub_cancel, there]

theorem start_le_of_getElem? {position place : Nat} {mark : Char × Nat}
    (behind : ∀ mark ∈ flat.marks.drop position, start ≤ mark.2) (later : position ≤ place)
    (found : flat.marks[place]? = some mark) : start ≤ mark.2 := by
  apply behind
  apply List.mem_of_getElem? (i := place - position)
  rw [List.getElem?_drop, Nat.add_sub_cancel' later, found]

/-- A range behind an index reaches the end of its line when a line feed follows. -/
theorem reaches_of_realRange {position : Nat} {range : Nat × Nat}
    (behind : ∀ mark ∈ flat.marks.drop position, start ≤ mark.2) (later : position ≤ first)
    (read : flat.realRange first last = .ok range) :
    start ≤ range.1 ∧ start ≤ range.2 ∧
      (Text.StandsAt ['\n'] flat.text last → flat.Reaches start range.2) ∧
      (Text.StandsAt ['\n', '\n'] flat.text last → flat.Reaches start (range.2 + 1)) := by
  rcases exists_marks_of_realRange read with
    ⟨isRange, ⟨opening, firstFound⟩, character, index, lastFound, ends⟩
  have begins := start_le_of_getElem? behind later firstFound
  have isBehind : start ≤ index := start_le_of_getElem? behind (by omega) lastFound
  have next : last - 1 + 1 = last := Nat.sub_add_cancel (by omega)
  rw [ends]
  refine ⟨begins, by omega, fun ends => .line lastFound isBehind ?_,
    fun ends => .blank lastFound isBehind ?_⟩
  · rwa [next]
  · rwa [next]

end Docs.FlatText

/-! ## One directive -/

section Directive

variable {directive : Directive} {flat : FlatText} {position start : Nat} {item : Resolved}

theorem reaches_of_place (shows : directive.anchor ≠ [])
    (stands : (directive.anchor ++ ['\n']).StandsAt flat.text position)
    (behind : ∀ mark ∈ flat.marks.drop position, start ≤ mark.2)
    (places : directive.place flat position = .ok item) :
    (start ≤ item.start ∧ flat.Reaches start item.stop) ∧
      ∀ range ∈ item.label, start ≤ range.1 ∧ flat.Reaches start range.2 := by
  have reads := Directive.readsOff_of_place places
  have lengths := directive.length_anchor
  have literal (nonempty : directive.literal ≠ []) :
      start ≤ item.start ∧ flat.Reaches start item.stop := by
    rcases FlatText.reaches_of_realRange behind (Nat.le_add_right _ _) (reads.literal nonempty)
      with ⟨begins, _, ends, _⟩
    refine ⟨begins, ends ?_⟩
    have feed := stands.behind
    rwa [lengths, ← Nat.add_assoc] at feed
  cases shown : directive.shownLabel? with
  | none =>
      have unlabelled := reads.label
      rw [shown] at unlabelled
      rw [← Except.ok.inj unlabelled]
      refine ⟨literal ?_, fun range isLabel => nomatch isLabel⟩
      rwa [Directive.anchor_of_none shown] at shows
  | some label =>
      have labelled := reads.label
      rw [shown, Option.mapM_some] at labelled
      rcases Except.exists_of_map_eq_ok labelled with ⟨range, read, isLabel⟩
      rw [Directive.anchor_of_some shown, List.append_assoc] at stands
      have feed := stands.behind
      rcases FlatText.reaches_of_realRange behind (Nat.le_refl _) read with
        ⟨begins, beforeStop, ends, endsBlank⟩
      rw [← isLabel]
      constructor
      · by_cases blank : directive.literal = []
        · rcases reads.empty blank with ⟨isStart, isStop⟩
          rw [isStart, isStop, ← isLabel]
          rw [blank] at feed
          exact ⟨Nat.le_succ_of_le beforeStop, endsBlank feed⟩
        · exact literal blank
      · rintro _ ⟨⟩
        have feedAlone : Text.StandsAt (['\n'] ++ (directive.literal ++ ['\n'])) flat.text
          (position + label.length) := feed
        exact ⟨begins, ends feedAlone.of_append⟩

/-- Nothing but a title is found before the scope. -/
theorem Directive.FoundAt.behind {scope : FormattingScope} {cursor lastStop : Nat}
    (ascends : scope.flat.offsets.Pairwise (· ≤ ·)) (noTitle : directive.isTitle = false)
    (found : directive.FoundAt scope (scope.flat.positionAtOrAfter scope.start) cursor lastStop
      position) :
    ∀ mark ∈ scope.flat.marks.drop position, scope.start ≤ mark.2 := by
  cases found with
  | forward finds =>
      have notBefore := (Text.find?_eq_some finds).1
      have floor : scope.flat.positionAtOrAfter scope.start ≤ position :=
        (Nat.le_trans (Nat.le_add_right _ _) (Nat.le_max_right _ _)).trans notBefore
      have cuts := FlatText.cuts_positionAtOrAfter ascends scope.start
      intro mark mem
      exact cuts.behind mark ((List.drop_sublist_drop_left _ floor).subset mem)
  | whole accepted =>
      rcases accepted.heeds with ⟨range, read, _, isTitle | within⟩
      · rw [noTitle] at isTitle
        cases isTitle
      · exact FlatText.behind_of_realRange ascends read within.1

end Directive

/-! ## All directives -/

/-- A resolved directive lies in a scope with all of its range and its label. -/
structure Resolved.Within (item : Resolved) (start stop : Nat) : Prop where
  begins : start ≤ item.start
  ends : item.stop ≤ stop
  label : ∀ range ∈ item.label, start ≤ range.1 ∧ range.2 ≤ stop

/-- Whatever directives are looked up in a scope of a snapshot, only titles leave it. -/
def Docs.Snapshot.Confines (snapshot : Snapshot) (start : Nat) (stop : Option Nat) : Prop :=
  ∀ (directives : List Directive) (offsets : Option (List Nat)) (resolved : List Resolved),
    (resolve directives snapshot start offsets stop).resolved = .ok resolved →
      ∀ item ∈ resolved, item.directive.isTitle = false →
        item.Within start (stop.getD snapshot.endIndex)

section Resolve

variable {directives : List Directive} {snapshot : Snapshot} {start : Nat}
  {offsets : Option (List Nat)} {stop : Option Nat} {resolved : List Resolved}

/-- Whatever is resolved, titles apart, begins in the scope and ends where a line does. -/
theorem reaches_of_resolve (ascends : (snapshot.flatten false).offsets.Pairwise (· ≤ ·))
    (resolves : (resolve directives snapshot start offsets stop).resolved = .ok resolved) :
    ∀ item ∈ resolved, item.directive.isTitle = false →
      (start ≤ item.start ∧ (snapshot.flatten false).Reaches start item.stop) ∧
        ∀ range ∈ item.label,
          start ≤ range.1 ∧ (snapshot.flatten false).Reaches start range.2 := by
  rw [resolved_resolve] at resolves
  rcases exists_lookups resolves with ⟨outcomes, looksUp, _, rfl⟩
  intro item mem noTitle
  rcases List.mem_filterMap.mp mem with ⟨outcome, outcomeMem, isItem⟩
  rcases looksUp.exists_foundAt outcome outcomeMem item isItem with
    ⟨shows, cursor, lastStop, position, found, places⟩
  rw [(Directive.readsOff_of_place places).same] at noTitle
  exact reaches_of_place shows found.stands (found.behind ascends noTitle) places

/-- A single directive is found wherever its line stands behind the beginning of the scope, when the
lengths say that it stands there. -/
theorem resolve_single {directive : Directive} {position : Nat} {item : Resolved}
    (first : directive.request = 0) (shows : directive.anchor ≠ [])
    (stands : (directive.anchor ++ ['\n']).StandsAt (snapshot.flatten false).text position)
    (notBefore : (snapshot.flatten false).positionAtOrAfter start ≤ position)
    (places : directive.place (snapshot.flatten false) position = .ok item) :
    (resolve [directive] snapshot start
      (some [position - (snapshot.flatten false).positionAtOrAfter start]) stop).resolved =
        .ok [item] := by
  let floor := (snapshot.flatten false).positionAtOrAfter start
  let scope := snapshot.scope start (some [position - floor]) stop
  have begins : forwardStart scope floor floor directive = position := by
    simp only [forwardStart, scope, Docs.Snapshot.scope, first, Option.bind_some,
      List.getElem?_cons_zero, Option.getD_some]
    omega
  have finds : scope.flat.find? (directive.anchor ++ ['\n']) position = some position := by
    rcases Text.exists_find? (by simp) stands (Nat.le_refl position) with
      ⟨found, notBehind, searched⟩
    have atLeast := (Text.find?_eq_some searched).1
    rw [Nat.le_antisymm notBehind atLeast] at searched
    exact searched
  have found : findAnchor scope floor floor 0 directive = .ok (some position, []) := by
    rw [findAnchor, begins, finds]
  rw [resolved_resolve, List.mergeSort_singleton]
  exact (Lookups.resolved shows found places (.done _ _)).resolveFrom

/-- Every index that a search can reach is the end of something that some directive formats. -/
theorem exists_resolve_of_reaches (ascends : (snapshot.flatten false).offsets.Pairwise (· ≤ ·))
    {index : Nat} (reaches : (snapshot.flatten false).Reaches start index)
    (stop : Option Nat) :
    ∃ directive offsets item, directive.isTitle = false ∧
      (resolve [directive] snapshot start offsets stop).resolved = .ok [item] ∧
      item.directive = directive ∧ item.stop = index := by
  cases reaches with
  | @line position index character there behind ends =>
      let directive : Directive := ⟨.paragraph, [character], 0, none, [], ['\n']⟩
      have places : directive.place (snapshot.flatten false) position =
          .ok ⟨directive, index, index + Text.charWidth character, none, []⟩ :=
        Directive.place_eq rfl (fun blank => nomatch blank)
          (fun _ => FlatText.realRange_single there) rfl
      have notBefore := FlatText.positionAtOrAfter_le ascends there behind
      exact ⟨directive, _, _, rfl, resolve_single rfl (List.cons_ne_nil _ _)
        (FlatText.standsAt_cons there ends) notBefore places, rfl, rfl⟩
  | @blank position index character there behind ends =>
      let directive : Directive := ⟨.code none, [], 0, some [character], [], ['\n', '\n']⟩
      have labelled : directive.shownLabel?.mapM (fun label =>
          (snapshot.flatten false).realRange position (position + label.length)) =
            .ok (some (index, index + Text.charWidth character)) := by
        have shown : directive.shownLabel? = some [character] := rfl
        rw [shown, Option.mapM_some, List.length_singleton, FlatText.realRange_single there]
        rfl
      have places : directive.place (snapshot.flatten false) position =
          .ok ⟨directive, index + Text.charWidth character + 1,
            index + Text.charWidth character + 1,
            some (index, index + Text.charWidth character), []⟩ :=
        Directive.place_eq labelled (fun _ => ⟨rfl, rfl⟩) (fun nonempty => absurd rfl nonempty) rfl
      have notBefore := FlatText.positionAtOrAfter_le ascends there behind
      exact ⟨directive, _, _, rfl, resolve_single rfl (List.cons_ne_nil _ _)
        (FlatText.standsAt_cons there ends) notBefore places, rfl, rfl⟩

theorem confines_iff (ascends : (snapshot.flatten false).offsets.Pairwise (· ≤ ·)) :
    snapshot.Confines start stop ↔ ∀ index, (snapshot.flatten false).Reaches start index →
      index ≤ stop.getD snapshot.endIndex := by
  constructor
  · intro confines index reaches
    rcases exists_resolve_of_reaches ascends reaches stop with
      ⟨directive, offsets, item, noTitle, resolves, rfl, rfl⟩
    exact (confines _ offsets _ resolves item List.mem_cons_self noTitle).ends
  · intro bounded directives offsets resolved resolves item mem noTitle
    rcases reaches_of_resolve ascends resolves item mem noTitle with ⟨literal, label⟩
    refine ⟨literal.1, bounded _ literal.2, ?_⟩
    intro range isLabel
    exact ⟨(label range isLabel).1, bounded _ (label range isLabel).2⟩

theorem Docs.FlatText.Grows.ascends {flat : FlatText} (grows : flat.Grows) :
    flat.offsets.Pairwise (· ≤ ·) := by
  rw [FlatText.offsets, List.pairwise_map]
  exact grows.pairwise.imp fun apart => Nat.le_of_add_right_le apart

/-- Where indices grow and no character ends beyond the end of the scope, only titles leave it. -/
theorem confines_of_grows (grows : (snapshot.flatten false).Grows)
    (ends : ∀ mark ∈ (snapshot.flatten false).marks,
      mark.2 + Text.charWidth mark.1 ≤ stop.getD snapshot.endIndex) :
    snapshot.Confines start stop := by
  rw [confines_iff grows.ascends]
  intro index reaches
  cases reaches with
  | line there _ _ => exact ends _ (List.mem_of_getElem? there)
  | @blank position index character there _ feeds =>
      -- The line feed behind the character has an index of its own.
      rcases FlatText.exists_mark_of_standsAt feeds with ⟨next, follows⟩
      have apart := grows.le_of_getElem? there follows
      have bound := ends _ (List.mem_of_getElem? follows)
      have one : Text.charWidth '\n' = 1 := rfl
      dsimp only at apart bound
      omega

end Resolve

/-- Of a document that the service holds, only titles leave a scope without an end of its own. -/
theorem confines_view {buffer : Buffer} (wellFormed : buffer.WellFormed)
    (documentId title : String) (start : Nat) :
    (buffer.view documentId title).Confines start none := by
  have some := sublist_topMarks 1 false buffer
  apply confines_of_grows
  · rw [Buffer.flatten_view_top wellFormed]
    exact ((apart_unitMarks 1 buffer).sublist some).isChain
  · intro mark mem
    rw [Buffer.flatten_view_top wellFormed] at mem
    rw [Option.getD_none, Buffer.endIndex_view wellFormed, Buffer.endIndex,
      Nat.add_comm buffer.width]
    exact (bounds_of_mem_unitMarks mark (some.subset mem)).2

/-- Whatever directives are looked up in whatever snapshot of ascending indices: nothing but a title
is found before the scope. Whether anything else can leave the scope behind its end is decided by
the text: it can exactly when some line that ends behind the beginning reaches beyond the end. None
does where indices grow and the scope ends with the text. -/
theorem resolve_confined {snapshot : Snapshot}
    (ascends : (snapshot.flatten false).offsets.Pairwise (· ≤ ·)) (start : Nat)
    (stop : Option Nat) :
    (∀ (directives : List Directive) (offsets : Option (List Nat)) (resolved : List Resolved),
      (resolve directives snapshot start offsets stop).resolved = .ok resolved →
        ∀ item ∈ resolved, item.directive.isTitle = false →
          start ≤ item.start ∧ ∀ range ∈ item.label, start ≤ range.1) ∧
      (snapshot.Confines start stop ↔ ∀ index, (snapshot.flatten false).Reaches start index →
        index ≤ stop.getD snapshot.endIndex) ∧
      ((snapshot.flatten false).Grows →
        (∀ mark ∈ (snapshot.flatten false).marks,
          mark.2 + Text.charWidth mark.1 ≤ stop.getD snapshot.endIndex) →
        snapshot.Confines start stop) := by
  refine ⟨?_, confines_iff ascends, confines_of_grows⟩
  intro directives offsets resolved resolves item mem noTitle
  rcases reaches_of_resolve ascends resolves item mem noTitle with ⟨literal, label⟩
  exact ⟨literal.1, fun range isLabel => (label range isLabel).1⟩

/-! ## A line behind the scope -/

/-- A document with two lines. -/
def twoLines : Snapshot :=
  ⟨[.paragraph 1 7 [⟨1, 7, "Intro\n".toList⟩], .paragraph 7 13 [⟨7, 13, "Setup\n".toList⟩]],
    .null, .null⟩

/-- A heading that is its second line. -/
def secondLine : Directive :=
  ⟨.heading (some 2), "Setup".toList, 0, none, [], ['\n', '\n']⟩

theorem resolve_confined_twoLines :
    (twoLines.flatten false).offsets.Pairwise (· ≤ ·) ∧ twoLines.Confines 1 none ∧
      ¬ twoLines.Confines 1 (some 7) := by
  have ascends : (twoLines.flatten false).offsets.Pairwise (· ≤ ·) := by decide
  have grows : (twoLines.flatten false).Grows := by
    unfold FlatText.Grows
    decide
  have there : (twoLines.flatten false).marks[10]? = some ('p', 11) := rfl
  have reaches : (twoLines.flatten false).Reaches 1 12 := .line there (by decide) (by decide)
  refine ⟨ascends, (resolve_confined ascends 1 none).2.2 grows (by decide), ?_⟩
  rw [(resolve_confined ascends 1 (some 7)).2.1]
  intro bounded
  exact absurd (bounded 12 reaches) (by decide)

/-- The end of a scope does not keep every heading inside. -/
theorem not_resolve_confined :
    ¬ ∀ (snapshot : Snapshot) (start : Nat) (stop : Option Nat),
      (snapshot.flatten false).offsets.Pairwise (· ≤ ·) → snapshot.Confines start stop := by
  intro confines
  have resolves : (resolve [secondLine] twoLines 1 none (some 7)).resolved =
      .ok [⟨secondLine, 7, 12, none, []⟩] := by decide +kernel
  have within := confines twoLines 1 (some 7) (by decide) _ _ _ resolves _ List.mem_cons_self rfl
  exact absurd within.ends (by decide)

end DocBinder
