import DocBinder.Proofs.Formatting.Scope
import DocBinder.Proofs.Replacement.Token
import DocBinder.Resolve.Replacements

/-!
# Positions and indices

Searches give positions of characters, requests are made of index units, and a flat text maps the
one to the other. All that is assumed of it is that its indices grow by at least the widths of its
characters, so there may be gaps, where images stand or tables begin. Ranges of positions then become
ranges of indices that hold the same characters and lie in the same order. The way back is a search
that halves the positions, and comes to the number of characters before an index.

The search for all places of a text is described as a loop: each round goes on behind the place that
the last one has found. Rounds therefore cannot overlap, yet they pass over no place that they do
not overlap themselves, which is all that tokens need, as these never overlap.
-/

namespace DocBinder

open Docs

/-! ## The loop of a search -/

namespace Text

/-- The rounds of a search for all places of a text, from a position on. -/
inductive Searches (text needle : Text) : Nat → List Nat → Prop where
  | ends {start : Nat} (absent : find? text needle start = none) : Searches text needle start []
  | goesOn {start place : Nat} {places : List Nat} (finds : find? text needle start = some place)
      (further : Searches text needle (place + needle.length) places) :
      Searches text needle start (place :: places)

variable {text needle : Text}

/-- A search that finds nothing at its start begins one position later just as well. -/
theorem find?_succ {start : Nat} (absent : ¬ needle.StandsAt text start)
    (within : start < text.length) : find? text needle start = find? text needle (start + 1) := by
  have parts := List.drop_eq_getElem_cons within
  rw [StandsAt, parts, ← List.isPrefixOf_iff_prefix] at absent
  simp only [find?, Nat.le_of_lt within, Nat.succ_le_of_lt within, if_true, parts, findFrom?,
    absent, if_false, Bool.false_eq_true]

theorem Searches.of_succ {start : Nat} {places : List Nat} (absent : ¬ needle.StandsAt text start)
    (within : start < text.length) (searches : Searches text needle (start + 1) places) :
    Searches text needle start places := by
  cases searches with
  | ends nothing => exact .ends ((find?_succ absent within).trans nothing)
  | goesOn finds further => exact .goesOn ((find?_succ absent within).trans finds) further

theorem searches_occurrencesFrom (nonempty : needle ≠ []) {rest : Text} {position : Nat} (skip : Nat)
    (split : text.drop position = rest) :
    Searches text needle (position + skip) (occurrencesFrom needle position skip rest) := by
  induction rest generalizing position skip with
  | nil =>
      apply Searches.ends
      simp only [find?, ← List.drop_drop, split, List.drop_nil, findFrom?]
      simp [nonempty]
  | cons character rest step =>
      have within : position < text.length := by
        apply Nat.lt_of_not_le
        intro outside
        simp [List.drop_of_length_le outside] at split
      have behind : text.drop (position + 1) = rest := by
        simp [← List.drop_drop, split]
      cases skip with
      | succ skip =>
          have further := step skip behind
          rwa [Nat.add_right_comm] at further
      | zero =>
          rw [occurrencesFrom]
          split
          · rename_i here
            have finds : find? text needle position = some position := by
              simp [find?, Nat.le_of_lt within, split, findFrom?, here]
            have positive := List.length_pos_iff.mpr nonempty
            have further := step (needle.length - 1) behind
            rw [show position + 1 + (needle.length - 1) = position + needle.length by omega]
              at further
            exact .goesOn finds further
          · rename_i notHere
            apply Searches.of_succ _ within (step 0 behind)
            intro stands
            rw [StandsAt, split] at stands
            exact notHere (List.isPrefixOf_iff_prefix.mpr stands)

/-- The search for all places of a text is a loop that comes to an end. -/
theorem searches_occurrences (text : Text) (nonempty : needle ≠ []) :
    Searches text needle 0 (occurrences text needle) := by
  have searches : Searches text needle (0 + 0) (occurrencesFrom needle 0 0 text) :=
    searches_occurrencesFrom nonempty 0 List.drop_zero
  simpa [occurrences, nonempty] using searches

namespace Searches

variable {start : Nat} {places : List Nat}

theorem stands (searches : Searches text needle start places) :
    ∀ place ∈ places, start ≤ place ∧ needle.StandsAt text place := by
  induction searches with
  | ends absent => simp
  | goesOn finds further step =>
      rcases find?_eq_some finds with ⟨atLeast, stands, _⟩
      intro place mem
      rcases List.mem_cons.mp mem with rfl | mem
      · exact ⟨atLeast, stands⟩
      · rcases step place mem with ⟨behind, stands⟩
        exact ⟨by omega, stands⟩

/-- Each round begins behind what the last one has found. -/
theorem apart (searches : Searches text needle start places) :
    places.Pairwise fun first second => first + needle.length ≤ second := by
  induction searches with
  | ends absent => exact .nil
  | goesOn finds further step =>
      apply List.Pairwise.cons _ step
      intro place mem
      exact (further.stands place mem).1

/-- A place that no round has found begins before the end of one that was. -/
theorem meets (nonempty : needle ≠ []) (searches : Searches text needle start places) {place : Nat}
    (stands : needle.StandsAt text place) (behind : start ≤ place) :
    ∃ found ∈ places, found ≤ place ∧ place < found + needle.length := by
  induction searches with
  | ends absent =>
      rcases exists_find? nonempty stands behind with ⟨found, _, finds⟩
      simp [absent] at finds
  | goesOn finds further step =>
      rename_i start first places
      have notEarlier : first ≤ place := by
        rcases exists_find? nonempty stands behind with ⟨found, atMost, also⟩
        rw [finds] at also
        cases also
        exact atMost
      by_cases inside : place < first + needle.length
      · exact ⟨first, List.mem_cons_self, notEarlier, inside⟩
      · rcases step (by omega) with ⟨found, mem, overlaps⟩
        exact ⟨found, List.mem_cons_of_mem _ mem, overlaps⟩

end Searches

end Text

/-! ## Ranges -/

namespace Docs.FlatText

variable {flat : FlatText}

theorem exists_realRange_iff {first last : Nat} :
    (∃ range, flat.realRange first last = .ok range) ↔ first < last ∧ last ≤ flat.text.length := by
  constructor
  · rintro ⟨range, read⟩
    rcases exists_marks_of_realRange read with ⟨isRange, _, _, _, closing, _⟩
    have within := (List.getElem?_eq_some_iff.mp closing).1
    simp only [text, List.length_map]
    omega
  · rintro ⟨isRange, within⟩
    simp only [text, List.length_map] at within
    simp only [realRange, isRange, if_true,
      List.getElem?_eq_getElem (l := flat.marks) (i := first) (by omega),
      List.getElem?_eq_getElem (l := flat.marks) (i := last - 1) (by omega)]
    exact ⟨_, rfl⟩

theorem realRangeInt_eq_ok {start stop : Int} {range : Nat × Nat} :
    flat.realRangeInt start stop = .ok range ↔
      ∃ first last : Nat, start = first ∧ stop = last ∧ flat.realRange first last = .ok range := by
  constructor
  · intro read
    rw [realRangeInt] at read
    split at read
    · rename_i notNegative
      cases within : flat.realRange start.toNat stop.toNat with
      | error fault => simp [within, Except.mapError] at read
      | ok found =>
          simp only [within, Except.mapError, Except.ok.injEq] at read
          subst read
          have isRange := (exists_marks_of_realRange within).1
          exact ⟨start.toNat, stop.toNat, by omega, by omega, within⟩
    · cases read
  · rintro ⟨first, last, rfl, rfl, read⟩
    simp [realRangeInt, read, Except.mapError]

theorem exists_realRangeInt_iff {start stop : Int} :
    (∃ range, flat.realRangeInt start stop = .ok range) ↔
      0 ≤ start ∧ start < stop ∧ stop ≤ flat.text.length := by
  constructor
  · rintro ⟨range, read⟩
    rcases realRangeInt_eq_ok.mp read with ⟨first, last, rfl, rfl, found⟩
    have within := exists_realRange_iff.mp ⟨range, found⟩
    omega
  · rintro ⟨notNegative, isRange, within⟩
    have reads : ∃ range, flat.realRange start.toNat stop.toNat = .ok range :=
      exists_realRange_iff.mpr (by omega)
    rcases reads with ⟨range, read⟩
    exact ⟨range, realRangeInt_eq_ok.mpr
      ⟨start.toNat, stop.toNat, by omega, by omega, read⟩⟩

/-- A range of indices begins and ends where the range of its positions does. -/
theorem cuts_of_realRange (grows : flat.Grows) {first last : Nat} {range : Nat × Nat}
    (read : flat.realRange first last = .ok range) :
    first < last ∧ flat.Cuts first range.1 ∧ flat.Cuts last range.2 := by
  rcases exists_realRange_iff.mp ⟨range, read⟩ with ⟨isRange, within⟩
  rw [text, List.length_map] at within
  rcases exists_cuts grows first last isRange within with ⟨found, also, _, begins, ends⟩
  rw [read] at also
  cases also
  exact ⟨isRange, begins, ends⟩

/-- What parts the characters parts their positions. -/
theorem Cuts.lt_iff {position place index : Nat} {mark : Char × Nat} (cuts : flat.Cuts position index)
    (there : flat.marks[place]? = some mark) : mark.2 < index ↔ place < position := by
  constructor
  · intro below
    by_contra behind
    have above := start_le_of_getElem? cuts.behind (Nat.le_of_not_lt behind) there
    omega
  · intro before
    apply cuts.before mark
    apply List.mem_of_getElem? (i := place)
    rwa [List.getElem?_take_of_lt before]

/-- The search for an index comes to the number of characters before it. -/
theorem positionAtOrAfter_eq_countP (ascends : flat.offsets.Pairwise (· ≤ ·)) (index : Nat) :
    flat.positionAtOrAfter index = flat.offsets.countP (· < index) := by
  rcases flat with ⟨marks⟩
  rw [offsets, List.pairwise_map] at ascends
  rcases exists_split_of_ascending ascends index with ⟨early, late, rfl, below, above⟩
  have front : early.countP (fun mark => mark.2 < index) = early.length := by
    simpa [List.countP_eq_length] using below
  have back : late.countP (fun mark => mark.2 < index) = 0 := by
    simpa [List.countP_eq_zero] using above
  calc (FlatText.mk (early ++ late)).positionAtOrAfter index
      = early.length := positionAtOrAfter_append below above
    _ = early.countP (fun mark => mark.2 < index) + late.countP (fun mark => mark.2 < index) := by
        rw [front, back, Nat.add_zero]
    _ = (FlatText.mk (early ++ late)).offsets.countP (· < index) := by
        rw [offsets, List.countP_map, ← List.countP_append]
        rfl

/-- The search for the index of a character comes to its position. -/
theorem positionAtOrAfter_of_getElem? (grows : flat.Grows) {position : Nat} {mark : Char × Nat}
    (there : flat.marks[position]? = some mark) : flat.positionAtOrAfter mark.2 = position := by
  have found := cuts_positionAtOrAfter grows.ascends mark.2
  have notBehind := positionAtOrAfter_le grows.ascends there (Nat.le_refl _)
  apply Nat.le_antisymm notBehind
  apply Nat.le_of_not_lt
  intro before
  -- the character at the position that was found would stand before the index and not before it
  have within := (List.getElem?_eq_some_iff.mp there).1
  have between := List.getElem?_eq_getElem (l := flat.marks) (i := flat.positionAtOrAfter mark.2)
    (by omega)
  have below := ((cuts_start grows there).lt_iff between).mpr before
  have notBelow := found.lt_iff between
  omega

/-- Ranges of positions become ranges of indices that hold the same characters, in the same order,
and an index is mapped back to the number of characters before it. -/
structure MapsPositions (flat : FlatText) : Prop where
  refuses : ∀ start stop : Int, (∃ fault, flat.realRangeInt start stop = .error fault) ↔
    stop ≤ start ∨ start < 0 ∨ flat.text.length < stop
  keepsOrder : ∀ (first last next beyond : Int) (range other : Nat × Nat),
    flat.realRangeInt first last = .ok range → flat.realRangeInt next beyond = .ok other →
    last ≤ next → range.1 < range.2 ∧ range.2 ≤ other.1 ∧ other.1 < other.2
  holds : ∀ (start stop : Int) (range : Nat × Nat), flat.realRangeInt start stop = .ok range →
    ∀ position index : Nat, flat.offsets[position]? = some index →
      (range.1 ≤ index ∧ index < range.2 ↔ start ≤ position ∧ position < stop)
  counts : ∀ index, flat.positionAtOrAfter index = flat.offsets.countP (· < index)
  returns : ∀ position index : Nat, flat.offsets[position]? = some index →
    flat.positionAtOrAfter index = position

theorem mapsPositions (grows : flat.Grows) : flat.MapsPositions where
  refuses start stop := by
    have accepts : (∃ range, flat.realRangeInt start stop = .ok range) ↔
        0 ≤ start ∧ start < stop ∧ stop ≤ flat.text.length := exists_realRangeInt_iff
    cases read : flat.realRangeInt start stop with
    | error fault =>
        simp only [read, reduceCtorEq, exists_false, false_iff] at accepts
        simp only [Except.error.injEq, exists_eq', true_iff]
        omega
    | ok range =>
        simp only [read, Except.ok.injEq, exists_eq', true_iff] at accepts
        simp only [reduceCtorEq, exists_false, false_iff]
        omega
  keepsOrder first last next beyond range other read otherRead order := by
    rcases realRangeInt_eq_ok.mp read with ⟨first, last, rfl, rfl, found⟩
    rcases realRangeInt_eq_ok.mp otherRead with ⟨next, beyond, rfl, rfl, otherFound⟩
    rcases exists_marks_of_realRange found with ⟨_, ⟨_, opens⟩, _⟩
    rcases exists_marks_of_realRange otherFound with ⟨_, ⟨_, otherOpens⟩, _⟩
    rcases cuts_of_realRange grows found with ⟨isRange, _, ends⟩
    rcases cuts_of_realRange grows otherFound with ⟨otherIsRange, _, otherEnds⟩
    have inside := (ends.lt_iff opens).mpr isRange
    have otherInside := (otherEnds.lt_iff otherOpens).mpr otherIsRange
    have apart := start_le_of_getElem? ends.behind (by omega : last ≤ next) otherOpens
    exact ⟨inside, apart, otherInside⟩
  holds start stop range read position index there := by
    rcases realRangeInt_eq_ok.mp read with ⟨first, last, rfl, rfl, found⟩
    rcases cuts_of_realRange grows found with ⟨_, begins, ends⟩
    simp only [offsets, List.getElem?_map, Option.map_eq_some_iff] at there
    rcases there with ⟨mark, there, rfl⟩
    have before := begins.lt_iff there
    have inside := ends.lt_iff there
    omega
  counts index := positionAtOrAfter_eq_countP grows.ascends index
  returns position index there := by
    simp only [offsets, List.getElem?_map, Option.map_eq_some_iff] at there
    rcases there with ⟨mark, there, rfl⟩
    exact positionAtOrAfter_of_getElem? grows there

/-! ## Places -/

/-- All places of a text are found in rounds that come to an end: they do not overlap, and whatever
place they pass over overlaps one of them. -/
structure FindsAll (flat : FlatText) (needle : Text) : Prop where
  searches : Text.Searches flat.text needle 0 (flat.findAll needle)
  stands : ∀ place ∈ flat.findAll needle, needle.StandsAt flat.text place
  apart : (flat.findAll needle).Pairwise fun first second => first + needle.length ≤ second
  meets : ∀ place, needle.StandsAt flat.text place →
    ∃ found ∈ flat.findAll needle, found ≤ place ∧ place < found + needle.length

theorem findsAll (flat : FlatText) {needle : Text} (nonempty : needle ≠ []) :
    flat.FindsAll needle := by
  have searches := Text.searches_occurrences flat.text nonempty
  refine ⟨searches, ?_, searches.apart, ?_⟩
  · intro place mem
    exact (searches.stands place mem).2
  · intro place stands
    exact searches.meets nonempty stands (Nat.zero_le place)

end Docs.FlatText

/-- A token is located where it stands exactly once. -/
theorem exists_locateToken_iff {flat : FlatText} {token : Text} (isToken : token.IsToken) :
    (∃ range, locateToken flat token = .ok range) ↔ token.StandsOnce flat.text := by
  have nonempty := isToken.ne_nil
  constructor
  · rintro ⟨range, located⟩
    rw [locateToken] at located
    split at located
    · cases located
    · rename_i place found
      exact ⟨place, (Text.occurrences_eq_singleton nonempty isToken.separate).mp found⟩
    · cases located
  · rintro ⟨place, only⟩
    have stands := (only place).mpr rfl
    have within := stands.within nonempty
    have positive := List.length_pos_iff.mpr nonempty
    have found : flat.findAll token = [place] :=
      (Text.occurrences_eq_singleton nonempty isToken.separate).mpr only
    rcases FlatText.exists_realRange_iff.mpr (⟨by omega, within⟩ :
      place < place + token.length ∧ place + token.length ≤ flat.text.length) with ⟨range, read⟩
    exact ⟨range, by simp [locateToken, found, read, Except.mapError]⟩

/-- Where the indices of a flat text grow by at least the widths of its characters, ranges and single
indices are mapped as they should be. In every flat text, all places of a text are found, and a token
is located if it stands exactly once. -/
theorem maps_grown {flat : FlatText} (grows : flat.Grows) :
    flat.MapsPositions ∧ (∀ needle, needle ≠ [] → flat.FindsAll needle) ∧
      ∀ kind number, (∃ range, locateToken flat (Placeholder.token kind number) = .ok range) ↔
        (Placeholder.token kind number).StandsOnce flat.text := by
  refine ⟨FlatText.mapsPositions grows, ?_, ?_⟩
  · intro needle nonempty
    exact flat.findsAll nonempty
  · intro kind number
    exact exists_locateToken_iff (Placeholder.isToken_token kind number)

/-- Characters around an image, of which the one behind it is two units wide. -/
def aroundImage : FlatText :=
  ⟨[('a', 1), ('😀', 3), ('a', 5), ('a', 6), ('a', 7)]⟩

theorem maps_grown_aroundImage :
    aroundImage.Grows ∧ aroundImage.MapsPositions ∧ aroundImage.realRangeInt 1 3 = .ok (3, 6) ∧
      aroundImage.positionAtOrAfter 2 = 1 ∧ aroundImage.FindsAll ['a', 'a'] ∧
      aroundImage.findAll ['a', 'a'] = [2] := by
  have grows : aroundImage.Grows := by
    unfold FlatText.Grows
    decide
  rcases maps_grown grows with ⟨maps, finds, _⟩
  have returned : aroundImage.positionAtOrAfter 2 = 1 := by
    rw [maps.counts]
    decide
  exact ⟨grows, maps, by decide, returned, finds _ (by decide), by decide⟩

end DocBinder
