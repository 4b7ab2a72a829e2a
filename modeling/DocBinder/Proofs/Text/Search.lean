import DocBinder.Text.Basic
import Mathlib.Data.List.Basic

/-!
# Searching texts

A text stands at a position of another one when what is left there begins with it. Searches are
described by that relation alone: the first place of a text from a position on, and the places of
a text from left to right.
-/

namespace DocBinder.Text

/-- A text stands at a position of another one. -/
def StandsAt (needle text : Text) (position : Nat) : Prop :=
  needle <+: text.drop position

instance (needle text : Text) (position : Nat) : Decidable (needle.StandsAt text position) :=
  inferInstanceAs (Decidable (needle <+: text.drop position))

theorem StandsAt.within {needle text : Text} {position : Nat} (nonempty : needle ≠ [])
    (stands : needle.StandsAt text position) : position + needle.length ≤ text.length := by
  have bound := List.IsPrefix.length_le stands
  have positive := List.length_pos_iff.mpr nonempty
  rw [List.length_drop] at bound
  omega

/-- Where a text stands, so does its beginning. -/
theorem StandsAt.of_append {first second text : Text} {position : Nat}
    (stands : (first ++ second).StandsAt text position) : first.StandsAt text position :=
  (List.prefix_append first second).trans stands

/-- Where a text stands, its end stands behind its beginning. -/
theorem StandsAt.behind {first second text : Text} {position : Nat}
    (stands : (first ++ second).StandsAt text position) :
    second.StandsAt text (position + first.length) := by
  rcases stands with ⟨after, split⟩
  rw [StandsAt, ← List.drop_drop, ← split, List.append_assoc, List.drop_left]
  exact List.prefix_append second after

theorem standsAt_append (before needle after : Text) :
    needle.StandsAt (before ++ (needle ++ after)) before.length := by
  rw [StandsAt, List.drop_left]
  exact List.prefix_append needle after

/-- Where a text stands is a matter of what lies behind. -/
theorem standsAt_append_right (needle before after : Text) (position : Nat) :
    needle.StandsAt (before ++ after) (before.length + position) ↔ needle.StandsAt after position := by
  rw [StandsAt, List.drop_append, Nat.add_sub_cancel_left, List.drop_of_length_le (by omega),
    List.nil_append, StandsAt]

/-- A text that ends before what is appended stands there just as well without it. -/
theorem standsAt_append_left {needle before : Text} (after : Text) {position : Nat}
    (within : position + needle.length ≤ before.length) :
    needle.StandsAt (before ++ after) position ↔ needle.StandsAt before position := by
  rw [StandsAt, StandsAt, List.drop_append_of_le_length (by omega)]
  refine ⟨fun stands => ?_, fun stands => stands.trans (List.prefix_append _ after)⟩
  exact List.prefix_of_prefix_length_le stands (List.prefix_append _ after)
    (by rw [List.length_drop]; omega)

/-- A text that stands somewhere cuts the other one in three. -/
theorem StandsAt.exists_split {needle text : Text} {position : Nat} (nonempty : needle ≠ [])
    (stands : needle.StandsAt text position) :
    ∃ before after, text = before ++ (needle ++ after) ∧ before.length = position := by
  have within := stands.within nonempty
  rcases stands with ⟨after, split⟩
  refine ⟨text.take position, after, ?_, ?_⟩
  · rw [split, List.take_append_drop]
  · rw [List.length_take]
    omega

theorem isInfix_iff {needle text : Text} :
    needle <:+: text ↔ ∃ position, needle.StandsAt text position := by
  constructor
  · rintro ⟨before, after, rfl⟩
    rw [List.append_assoc]
    exact ⟨before.length, standsAt_append before needle after⟩
  · rintro ⟨position, stands⟩
    exact stands.isInfix.trans (List.drop_suffix position text).isInfix

/-! ## The first place -/

theorem findFrom?_eq_some {needle text : Text} {position found : Nat}
    (finds : findFrom? needle position text = some found) :
    ∃ distance, found = position + distance ∧ needle.StandsAt text distance ∧
      ∀ other < distance, ¬ needle.StandsAt text other := by
  induction text generalizing position with
  | nil =>
      rw [findFrom?] at finds
      split at finds
      · rename_i isEmpty
        cases finds
        rw [List.isEmpty_iff] at isEmpty
        exact ⟨0, rfl, by simp [StandsAt, isEmpty], fun other below => absurd below (by omega)⟩
      · cases finds
  | cons character rest step =>
      rw [findFrom?] at finds
      split at finds
      · rename_i here
        cases finds
        exact ⟨0, rfl, List.isPrefixOf_iff_prefix.mp here, fun other below => absurd below (by omega)⟩
      · rename_i notHere
        rcases step finds with ⟨distance, rfl, stands, first⟩
        refine ⟨distance + 1, by omega, stands, ?_⟩
        intro other below
        cases other with
        | zero => exact fun here => notHere (List.isPrefixOf_iff_prefix.mpr here)
        | succ other => exact first other (by omega)

theorem findFrom?_isSome {needle text : Text} (position : Nat) {distance : Nat}
    (stands : needle.StandsAt text distance) : (findFrom? needle position text).isSome := by
  induction text generalizing position distance with
  | nil =>
      rw [StandsAt, List.drop_nil, List.prefix_nil] at stands
      simp [findFrom?, stands]
  | cons character rest step =>
      rw [findFrom?]
      split
      · rfl
      · rename_i notHere
        cases distance with
        | zero => exact absurd (List.isPrefixOf_iff_prefix.mpr stands) notHere
        | succ distance => exact step (position + 1) stands

/-- What a search finds is the first place from its start on. -/
theorem find?_eq_some {needle text : Text} {start found : Nat}
    (finds : find? text needle start = some found) :
    start ≤ found ∧ needle.StandsAt text found ∧
      ∀ other, start ≤ other → other < found → ¬ needle.StandsAt text other := by
  rw [find?] at finds
  split at finds
  · rcases findFrom?_eq_some finds with ⟨distance, rfl, stands, first⟩
    rw [StandsAt, List.drop_drop] at stands
    refine ⟨by omega, stands, ?_⟩
    intro other atLeast below
    have notThere := first (other - start) (by omega)
    rwa [StandsAt, List.drop_drop, Nat.add_sub_cancel' atLeast] at notThere
  · cases finds

/-- A search that starts at or before a place of a text finds that place or an earlier one. -/
theorem exists_find? {needle text : Text} {start place : Nat} (nonempty : needle ≠ [])
    (stands : needle.StandsAt text place) (notBehind : start ≤ place) :
    ∃ found ≤ place, find? text needle start = some found := by
  have within := stands.within nonempty
  have there : needle.StandsAt (text.drop start) (place - start) := by
    rwa [StandsAt, List.drop_drop, Nat.add_sub_cancel' notBehind]
  rcases Option.isSome_iff_exists.mp (findFrom?_isSome start there) with ⟨found, finds⟩
  have searched : find? text needle start = some found := by
    rw [find?, if_pos (by omega), finds]
  refine ⟨found, ?_, searched⟩
  rcases Nat.lt_or_ge place found with behind | notAfter
  · exact absurd stands ((find?_eq_some searched).2.2 place notBehind behind)
  · exact notAfter

/-! ## All places -/

theorem standsAt_of_mem_occurrencesFrom {needle text : Text} {position skip place : Nat}
    (found : place ∈ occurrencesFrom needle position skip text) :
    ∃ distance, place = position + distance ∧ needle.StandsAt text distance := by
  induction text generalizing position skip with
  | nil => exact absurd found List.not_mem_nil
  | cons character rest step =>
      have later {skip : Nat} (further : place ∈ occurrencesFrom needle (position + 1) skip rest) :
          ∃ distance, place = position + distance ∧ needle.StandsAt (character :: rest) distance := by
        rcases step further with ⟨distance, rfl, stands⟩
        exact ⟨distance + 1, by omega, stands⟩
      cases skip with
      | succ skip => exact later found
      | zero =>
          rw [occurrencesFrom] at found
          split at found
          · rename_i here
            rcases List.mem_cons.mp found with rfl | found
            · exact ⟨0, rfl, List.isPrefixOf_iff_prefix.mp here⟩
            · exact later found
          · exact later found

/-- Whatever the search for all places of a text gives is such a place. -/
theorem standsAt_of_mem_occurrences {needle text : Text} {place : Nat}
    (found : place ∈ occurrences text needle) : needle.StandsAt text place := by
  rw [occurrences] at found
  split at found
  · exact absurd found List.not_mem_nil
  · rcases standsAt_of_mem_occurrencesFrom found with ⟨distance, rfl, stands⟩
    rwa [Nat.zero_add]

/-- Two places of a text never overlap. -/
def Separate (needle : Text) : Prop :=
  ∀ text first second, needle.StandsAt text first → needle.StandsAt text second →
    first < second → first + needle.length ≤ second

theorem occurrencesFrom_eq {needle text : Text} (separate : needle.Separate) (position : Nat)
    {skip : Nat} (passed : ∀ place < skip, ¬ needle.StandsAt text place) :
    occurrencesFrom needle position skip text =
      ((List.range text.length).filter fun place => needle.StandsAt text place).map
        (position + ·) := by
  induction text generalizing position skip with
  | nil => rfl
  | cons character rest step =>
      have later : ((List.range rest.length).map Nat.succ).filter
            (fun place => needle.StandsAt (character :: rest) place) =
          ((List.range rest.length).filter fun place => needle.StandsAt rest place).map Nat.succ :=
        List.filter_map
      have moved (places : List Nat) :
          (places.map Nat.succ).map (position + ·) = places.map (position + 1 + ·) := by
        rw [List.map_map]
        refine List.map_congr_left fun place _ => ?_
        simp only [Function.comp_apply]
        omega
      rw [List.length_cons, List.range_succ_eq_map]
      cases skip with
      | succ skip =>
          have notHere := passed 0 (Nat.succ_pos skip)
          rw [List.filter_cons_of_neg (by simpa using notHere), later, moved]
          exact step (position + 1) fun place below => passed (place + 1) (by omega)
      | zero =>
          rw [occurrencesFrom]
          split
          · rename_i here
            have stands : needle.StandsAt (character :: rest) 0 := List.isPrefixOf_iff_prefix.mp here
            rw [List.filter_cons_of_pos (by simpa using stands), List.map_cons, later, moved]
            refine congrArg _ (step (position + 1) ?_)
            intro place below again
            have apart := separate (character :: rest) 0 (place + 1) stands again (by omega)
            omega
          · rename_i notHere
            have absent : ¬ needle.StandsAt (character :: rest) 0 :=
              fun stands => notHere (List.isPrefixOf_iff_prefix.mpr stands)
            rw [List.filter_cons_of_neg (by simpa using absent), later, moved]
            exact step (position + 1) fun place below => absurd below (by omega)

/-- The search for all places of a text finds each of them, when they cannot overlap. -/
theorem occurrences_eq {needle : Text} (text : Text) (nonempty : needle ≠ [])
    (separate : needle.Separate) :
    occurrences text needle =
      (List.range text.length).filter fun place => needle.StandsAt text place := by
  have unpassed : ∀ place < 0, ¬ needle.StandsAt text place :=
    fun place below => absurd below (by omega)
  have all := occurrencesFrom_eq separate 0 unpassed
  rw [occurrences, if_neg (by simpa using nonempty), all]
  simp

theorem mem_occurrences {needle text : Text} {place : Nat} (nonempty : needle ≠ [])
    (separate : needle.Separate) :
    place ∈ occurrences text needle ↔ needle.StandsAt text place := by
  rw [occurrences_eq text nonempty separate, List.mem_filter, List.mem_range, decide_eq_true_eq]
  refine ⟨fun found => found.2, fun stands => ⟨?_, stands⟩⟩
  have within := stands.within nonempty
  have positive := List.length_pos_iff.mpr nonempty
  omega

/-- A text stands at one place of another and nowhere else. -/
def StandsOnce (needle text : Text) : Prop :=
  ∃ place, ∀ other, needle.StandsAt text other ↔ other = place

theorem occurrences_eq_singleton {needle text : Text} {place : Nat} (nonempty : needle ≠ [])
    (separate : needle.Separate) :
    occurrences text needle = [place] ↔ ∀ other, needle.StandsAt text other ↔ other = place := by
  constructor
  · intro found other
    rw [← mem_occurrences nonempty separate, found, List.mem_singleton]
  · intro only
    have distinct : (occurrences text needle).Nodup := by
      rw [occurrences_eq text nonempty separate]
      exact List.nodup_range.filter _
    refine List.perm_singleton.mp ((List.perm_ext_iff_of_nodup distinct (by simp)).mpr ?_)
    intro other
    rw [mem_occurrences nonempty separate, only, List.mem_singleton]

end DocBinder.Text
