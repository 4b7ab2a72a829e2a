import DocBinder.Proofs.Formatting.Place
import DocBinder.Proofs.Steps

/-!
# Looking up directives one after another

Nothing is assumed here of the indices of a snapshot. An anchor is found where its line stands, by
one of two searches, and its ranges are then read off the flat text; neither step can fail when the
spans lie within the literal. A whole run over the directives is a relation: a directive that is
passed over leaves the cursor and the end of the last range as they are, and one that is resolved
moves both.
-/

namespace DocBinder

open Docs

/-! ## One directive -/

/-- The search of the whole document accepts a position: the line of the anchor stands there, not
before the end of the last range, and inside the scope unless the directive formats a title. -/
structure Directive.AcceptedAt (directive : Directive) (scope : FormattingScope)
    (lastStop position : Nat) : Prop where
  stands : (directive.anchor ++ ['\n']).StandsAt scope.flat.text position
  heeds : ∃ range,
    scope.flat.realRange position (position + directive.anchor.length) = .ok range ∧
      lastStop ≤ range.1 ∧
        (directive.isTitle = true ∨ scope.start ≤ range.1 ∧ range.2 ≤ scope.stop)

/-- How the anchor of a directive is found at a position. -/
inductive Directive.FoundAt (directive : Directive) (scope : FormattingScope)
    (floor cursor lastStop position : Nat) : Prop where
  | forward (finds : scope.flat.find? (directive.anchor ++ ['\n'])
      (forwardStart scope floor cursor directive) = some position)
  | whole (accepted : directive.AcceptedAt scope lastStop position)

section Directive

variable {scope : FormattingScope} {directive : Directive} {flat : FlatText}
  {floor cursor lastStop position : Nat}

theorem Directive.FoundAt.stands (found : directive.FoundAt scope floor cursor lastStop position) :
    (directive.anchor ++ ['\n']).StandsAt scope.flat.text position := by
  cases found with
  | forward finds => exact (Text.find?_eq_some finds).2.1
  | whole accepted => exact accepted.stands

theorem accepted_of_chooseCandidate {positions : List Nat} {kept : Option Nat}
    {candidate : Candidate}
    (stand : ∀ place ∈ positions, (directive.anchor ++ ['\n']).StandsAt scope.flat.text place)
    (keeps : ∀ place, kept = some place → directive.AcceptedAt scope lastStop place)
    (chooses : chooseCandidate scope directive lastStop kept positions = .ok candidate) :
    ∀ place, candidate = .inScope place ∨ candidate = .title place →
      directive.AcceptedAt scope lastStop place := by
  induction positions generalizing kept with
  | nil =>
      cases chooses
      intro place isCandidate
      cases kept with
      | none => simp at isCandidate
      | some other => exact keeps place (by simpa using isCandidate)
  | cons first rest step =>
      have further := fun place mem => stand place (List.mem_cons_of_mem first mem)
      rw [chooseCandidate] at chooses
      rcases Except.exists_of_bind_eq_ok chooses with ⟨range, read, chooses⟩
      dsimp only at chooses
      split at chooses
      · exact step further keeps chooses
      · rename_i behind
        rw [Nat.not_lt] at behind
        split at chooses
        · rename_i within
          rw [Bool.and_eq_true, decide_eq_true_eq, decide_eq_true_eq] at within
          cases chooses
          rintro place (⟨⟨⟩⟩ | ⟨⟨⟩⟩)
          exact ⟨stand first List.mem_cons_self, range, read, behind, .inr within⟩
        · apply step further _ chooses
          intro place isKept
          split at isKept
          · rename_i isNew
            cases isKept
            rw [Bool.and_eq_true] at isNew
            exact ⟨stand first List.mem_cons_self, range, read, behind, .inl isNew.2⟩
          · exact keeps place isKept

theorem foundAt_of_findAnchor {log : List Log.Line}
    (finds : findAnchor scope floor cursor lastStop directive = .ok (some position, log)) :
    directive.FoundAt scope floor cursor lastStop position := by
  rw [findAnchor] at finds
  split at finds
  · rename_i place found
    cases finds
    exact .forward found
  · rcases Except.exists_of_bind_eq_ok finds with ⟨candidate, chooses, finds⟩
    have nothing : ∀ place, (none : Option Nat) = some place →
        directive.AcceptedAt scope lastStop place := by simp
    have accepted := accepted_of_chooseCandidate
      (fun place mem => Text.standsAt_of_mem_occurrences mem) nothing chooses
    cases candidate with
    | inScope place =>
        cases finds
        exact .whole (accepted position (.inl rfl))
    | title place =>
        cases finds
        exact .whole (accepted position (.inr rfl))
    | nowhere => cases finds

theorem exists_chooseCandidate {positions : List Nat} (shows : directive.anchor ≠ [])
    (stand : ∀ place ∈ positions, directive.anchor.StandsAt scope.flat.text place)
    (lastStop : Nat) (kept : Option Nat) :
    ∃ candidate, chooseCandidate scope directive lastStop kept positions = .ok candidate := by
  induction positions generalizing kept with
  | nil => exact ⟨_, rfl⟩
  | cons first rest step =>
      have further := step fun place mem => stand place (List.mem_cons_of_mem first mem)
      have within := (stand first List.mem_cons_self).within shows
      have positive := List.length_pos_iff.mpr shows
      rw [FlatText.text, List.length_map] at within
      have isRange : first < first + directive.anchor.length := by omega
      rcases FlatText.exists_realRange isRange within with ⟨start, stop, read⟩
      simp only [chooseCandidate, read, bind, Except.bind]
      split
      · exact further kept
      · split
        · exact ⟨_, rfl⟩
        · exact further _

/-- Looking for an anchor never fails. -/
theorem exists_findAnchor (shows : directive.anchor ≠ []) (floor cursor lastStop : Nat) :
    ∃ found log, findAnchor scope floor cursor lastStop directive = .ok (found, log) := by
  rw [findAnchor]
  split
  · exact ⟨_, _, rfl⟩
  · rcases exists_chooseCandidate shows
      (fun place mem => (Text.standsAt_of_mem_occurrences mem).of_append) lastStop none with
      ⟨candidate, chooses⟩
    rw [searchWhole, FlatText.findAll, chooses]
    cases candidate <;> exact ⟨_, _, rfl⟩

namespace Directive

/-- The ranges of a directive whose spans lie within its literal are there wherever its anchor
stands. -/
theorem exists_place_of_standsAt (shows : directive.anchor ≠ [])
    (stands : directive.anchor.StandsAt flat.text position)
    (spansFit : ∀ span ∈ directive.spans, span.stop ≤ directive.literal.length) :
    ∃ item, directive.place flat position = .ok item := by
  have within := stands.within shows
  have lengths := directive.length_anchor
  rw [FlatText.text, List.length_map] at within
  have ranges (start stop : Nat) (isRange : start < stop) (inside : stop ≤ flat.marks.length) :
      ∃ range, flat.realRange start stop = .ok range := by
    rcases FlatText.exists_realRange isRange inside with ⟨first, last, read⟩
    exact ⟨(first, last), read⟩
  have labelRead : ∃ label, directive.shownLabel?.mapM (fun label =>
      flat.realRange position (position + label.length)) = .ok label := by
    cases shown : directive.shownLabel? with
    | none => exact ⟨none, rfl⟩
    | some label =>
        have positive := List.length_pos_iff.mpr (shownLabel?_ne_nil shown)
        have lead : directive.lead = label.length + 1 := by simp [Directive.lead, shown]
        rcases ranges position (position + label.length) (by omega) (by omega) with ⟨range, read⟩
        exact ⟨some range, by rw [Option.mapM_some, read]; rfl⟩
  rcases labelRead with ⟨label, labelRead⟩
  have literalRead : ∃ start stop : Nat,
      (directive.literal = [] →
        start = (label.map (·.2 + 1)).getD 0 ∧ stop = (label.map (·.2 + 1)).getD 0) ∧
      (directive.literal ≠ [] → flat.realRange (position + directive.lead)
        (position + directive.lead + directive.literal.length) = .ok (start, stop)) := by
    by_cases blank : directive.literal = []
    · exact ⟨_, _, fun _ => ⟨rfl, rfl⟩, fun nonempty => absurd blank nonempty⟩
    · have positive := List.length_pos_iff.mpr blank
      rcases ranges (position + directive.lead)
        (position + directive.lead + directive.literal.length) (by omega) (by omega) with
        ⟨range, read⟩
      exact ⟨_, _, fun isEmpty => absurd isEmpty blank, fun _ => read⟩
  rcases literalRead with ⟨start, stop, empty, literal⟩
  refine (Except.exists_mapM ?_).elim fun spans spansRead =>
    ⟨_, place_eq labelRead empty literal spansRead⟩
  intro span mem
  rw [List.mem_filter, decide_eq_true_eq] at mem
  have fits := spansFit span mem.1
  rcases ranges (position + directive.lead + span.start) (position + directive.lead + span.stop)
    (by omega) (by omega) with ⟨range, read⟩
  rw [read]
  exact ⟨_, rfl⟩

/-- What the ranges of an item say of a directive whose anchor stands at a position. -/
structure ReadsOff (directive : Directive) (flat : FlatText) (position : Nat) (item : Resolved) :
    Prop where
  same : item.directive = directive
  label : directive.shownLabel?.mapM (fun label =>
    flat.realRange position (position + label.length)) = .ok item.label
  empty : directive.literal = [] →
    item.start = (item.label.map (·.2 + 1)).getD 0 ∧ item.stop = (item.label.map (·.2 + 1)).getD 0
  literal : directive.literal ≠ [] → flat.realRange (position + directive.lead)
    (position + directive.lead + directive.literal.length) = .ok (item.start, item.stop)

theorem readsOff_of_place {item : Resolved} (places : directive.place flat position = .ok item) :
    directive.ReadsOff flat position item := by
  rw [place] at places
  rcases Except.exists_of_bind_eq_ok places with ⟨label, labelRead, places⟩
  dsimp only at places
  split at places
  · rename_i blank
    rw [List.isEmpty_iff] at blank
    rcases Except.exists_of_bind_eq_ok places with ⟨range, rangeRead, places⟩
    rcases Except.exists_of_bind_eq_ok places with ⟨spans, _, isItem⟩
    cases rangeRead
    cases isItem
    exact ⟨rfl, labelRead, fun _ => ⟨rfl, rfl⟩, fun nonempty => absurd blank nonempty⟩
  · rename_i nonempty
    rw [List.isEmpty_iff] at nonempty
    rcases Except.exists_of_bind_eq_ok places with ⟨range, rangeRead, places⟩
    rcases Except.exists_of_bind_eq_ok places with ⟨spans, _, isItem⟩
    cases isItem
    refine ⟨rfl, labelRead, fun blank => absurd blank nonempty, fun _ => ?_⟩
    cases shown : directive.shownLabel? <;> simpa [lead, shown, Nat.add_assoc] using rangeRead

end Directive

end Directive

/-! ## All directives -/

/-- Directives in the order in which they are looked up, each with its ranges when it is resolved.
Only one that is resolved moves the cursor and the end of the last range. -/
inductive Lookups (scope : FormattingScope) (floor : Nat) :
    Nat → Nat → List (Directive × Option Resolved) → Prop where
  | done (cursor lastStop : Nat) : Lookups scope floor cursor lastStop []
  | blank {cursor lastStop : Nat} {directive : Directive}
      {rest : List (Directive × Option Resolved)} (isBlank : directive.anchor = [])
      (following : Lookups scope floor cursor lastStop rest) :
      Lookups scope floor cursor lastStop ((directive, none) :: rest)
  | absent {cursor lastStop : Nat} {directive : Directive} {log : List Log.Line}
      {rest : List (Directive × Option Resolved)} (shows : directive.anchor ≠ [])
      (misses : findAnchor scope floor cursor lastStop directive = .ok (none, log))
      (following : Lookups scope floor cursor lastStop rest) :
      Lookups scope floor cursor lastStop ((directive, none) :: rest)
  | resolved {cursor lastStop position : Nat} {directive : Directive} {log : List Log.Line}
      {item : Resolved} {rest : List (Directive × Option Resolved)}
      (shows : directive.anchor ≠ [])
      (finds : findAnchor scope floor cursor lastStop directive = .ok (some position, log))
      (places : directive.place scope.flat position = .ok item)
      (following : Lookups scope floor (advance scope.flat directive position) item.stop rest) :
      Lookups scope floor cursor lastStop ((directive, some item) :: rest)

section Lookups

variable {scope : FormattingScope} {floor cursor lastStop : Nat}
  {outcomes : List (Directive × Option Resolved)}

theorem Lookups.resolveFrom (looksUp : Lookups scope floor cursor lastStop outcomes) :
    (DocBinder.resolveFrom scope floor cursor lastStop (outcomes.map (·.1))).resolved =
      .ok (outcomes.filterMap (·.2)) := by
  induction looksUp with
  | done cursor lastStop => rfl
  | blank isBlank following step =>
      rw [List.map_cons, DocBinder.resolveFrom, if_pos (List.isEmpty_iff.mpr isBlank)]
      exact step
  | absent shows misses following step =>
      rw [List.map_cons, DocBinder.resolveFrom, if_neg (by simpa using shows), misses]
      exact step
  | resolved shows finds places following step =>
      rw [List.map_cons, DocBinder.resolveFrom, if_neg (by simpa using shows), finds]
      dsimp only
      rw [places]
      dsimp only
      rw [step]
      rfl

theorem exists_lookups {directives : List Directive} {resolved : List Resolved}
    (resolves : (resolveFrom scope floor cursor lastStop directives).resolved = .ok resolved) :
    ∃ outcomes, Lookups scope floor cursor lastStop outcomes ∧
      outcomes.map (·.1) = directives ∧ outcomes.filterMap (·.2) = resolved := by
  induction directives generalizing cursor lastStop resolved with
  | nil =>
      cases resolves
      exact ⟨[], .done cursor lastStop, rfl, rfl⟩
  | cons directive rest step =>
      rw [resolveFrom] at resolves
      split at resolves
      · rename_i isBlank
        rcases step resolves with ⟨outcomes, looksUp, rfl, rfl⟩
        exact ⟨(directive, none) :: outcomes, .blank (List.isEmpty_iff.mp isBlank) looksUp, rfl, rfl⟩
      · rename_i notBlank
        have shows : directive.anchor ≠ [] := by simpa using notBlank
        split at resolves
        · cases resolves
        · rename_i log misses
          rcases step resolves with ⟨outcomes, looksUp, rfl, rfl⟩
          exact ⟨(directive, none) :: outcomes, .absent shows misses looksUp, rfl, rfl⟩
        · rename_i position log finds
          split at resolves
          · cases resolves
          · rename_i item places
            rcases Except.exists_of_map_eq_ok resolves with ⟨others, further, rfl⟩
            rcases step further with ⟨outcomes, looksUp, rfl, rfl⟩
            exact ⟨(directive, some item) :: outcomes, .resolved shows finds places looksUp, rfl,
              rfl⟩

/-- Directives whose spans lie within their literals are looked up without a fault. -/
theorem exists_resolveFrom_of_spansFit {directives : List Directive}
    (spansFit : ∀ directive ∈ directives, ∀ span ∈ directive.spans,
      span.stop ≤ directive.literal.length)
    (scope : FormattingScope) (floor cursor lastStop : Nat) :
    ∃ resolved, (resolveFrom scope floor cursor lastStop directives).resolved = .ok resolved := by
  induction directives generalizing cursor lastStop with
  | nil => exact ⟨[], rfl⟩
  | cons directive rest step =>
      have further := step fun other mem => spansFit other (List.mem_cons_of_mem _ mem)
      rw [resolveFrom]
      split
      · exact further cursor lastStop
      · rename_i notBlank
        have shows : directive.anchor ≠ [] := by simpa using notBlank
        have sought : ∃ found log, findAnchor scope floor cursor lastStop directive =
          .ok (found, log) := exists_findAnchor shows floor cursor lastStop
        rcases sought with ⟨found, log, finds⟩
        rw [finds]
        cases found with
        | none => exact further cursor lastStop
        | some position =>
            have stands := (foundAt_of_findAnchor finds).stands.of_append
            rcases Directive.exists_place_of_standsAt shows stands
              (spansFit directive List.mem_cons_self) with ⟨item, places⟩
            rcases further (advance scope.flat directive position) item.stop with
              ⟨resolved, resolves⟩
            dsimp only
            rw [places]
            dsimp only
            rw [resolves]
            exact ⟨item :: resolved, rfl⟩

/-- A directive that is resolved was found and placed. -/
theorem Lookups.exists_foundAt (looksUp : Lookups scope floor cursor lastStop outcomes) :
    ∀ outcome ∈ outcomes, ∀ item ∈ outcome.2, outcome.1.anchor ≠ [] ∧
      ∃ cursor lastStop position, outcome.1.FoundAt scope floor cursor lastStop position ∧
        outcome.1.place scope.flat position = .ok item := by
  induction looksUp with
  | done cursor lastStop => exact fun _ mem => absurd mem List.not_mem_nil
  | blank isBlank following step =>
      intro outcome mem item isItem
      rcases List.mem_cons.mp mem with rfl | mem
      · cases isItem
      · exact step outcome mem item isItem
  | absent shows misses following step =>
      intro outcome mem item isItem
      rcases List.mem_cons.mp mem with rfl | mem
      · cases isItem
      · exact step outcome mem item isItem
  | resolved shows finds places following step =>
      intro outcome mem item isItem
      rcases List.mem_cons.mp mem with rfl | mem
      · cases isItem
        exact ⟨shows, _, _, _, foundAt_of_findAnchor finds, places⟩
      · exact step outcome mem item isItem

/-- What is resolved are some of the directives, in their order. -/
theorem Lookups.sublist_directives (looksUp : Lookups scope floor cursor lastStop outcomes) :
    ((outcomes.filterMap (·.2)).map (·.directive)).Sublist (outcomes.map (·.1)) := by
  induction looksUp with
  | done cursor lastStop => exact .slnil
  | blank isBlank following step => exact step.cons _
  | absent shows misses following step => exact step.cons _
  | resolved shows finds places following step =>
      have same := (Directive.readsOff_of_place places).same
      simp only [List.filterMap_cons, List.map_cons, same]
      exact step.cons_cons _

/-- Whatever was not resolved can be left out: it has moved nothing. -/
theorem Lookups.sublist {kept : List (Directive × Option Resolved)}
    (looksUp : Lookups scope floor cursor lastStop outcomes) (some : kept.Sublist outcomes)
    (same : (kept.filterMap (·.2)).length = (outcomes.filterMap (·.2)).length) :
    Lookups scope floor cursor lastStop kept := by
  induction looksUp generalizing kept with
  | done cursor lastStop =>
      rw [List.sublist_nil.mp some]
      exact .done cursor lastStop
  | blank isBlank following step =>
      cases some with
      | cons _ others => exact step others same
      | cons_cons _ others => exact .blank isBlank (step others same)
  | absent shows misses following step =>
      cases some with
      | cons _ others => exact step others same
      | cons_cons _ others => exact .absent shows misses (step others same)
  | resolved shows finds places following step =>
      cases some with
      | cons _ others =>
          have fewer := (others.filterMap (·.2)).length_le
          simp only [List.filterMap_cons, List.length_cons] at same
          omega
      | cons_cons _ others =>
          simp only [List.filterMap_cons, List.length_cons, Nat.succ.injEq] at same
          exact .resolved shows finds places (step others same)

end Lookups

/-! ## The whole list -/

/-- The scope in which the directives of a document are looked up in a snapshot. -/
def Docs.Snapshot.scope (snapshot : Snapshot) (start : Nat) (offsets : Option (List Nat))
    (stop : Option Nat) : FormattingScope :=
  ⟨snapshot.flatten false, start, stop.getD snapshot.endIndex, offsets⟩

theorem resolved_resolve (directives : List Directive) (snapshot : Snapshot) (start : Nat)
    (offsets : Option (List Nat)) (stop : Option Nat) :
    let floor := (snapshot.flatten false).positionAtOrAfter start
    (resolve directives snapshot start offsets stop).resolved =
      (resolveFrom (snapshot.scope start offsets stop) floor floor 0
        (directives.mergeSort fun first second => first.request ≤ second.request)).resolved := by
  dsimp only
  rw [resolve]
  dsimp only
  split
  · rfl
  · rename_i resolved resolves
    exact resolves.symm

end DocBinder
