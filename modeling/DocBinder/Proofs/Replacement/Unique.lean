import DocBinder.Proofs.Replacement.Plan
import Mathlib.Data.List.Sort

/-!
# Replacing tokens has one result

A token that stands once in the text of a buffer covers the same units however the buffer is cut, and
replacements that cut a buffer are in the order of their indices. Hence there is only one buffer
that replacing tokens can give.
-/

namespace DocBinder

open Docs

namespace Docs.Buffer

/-- A buffer is split before a character by the number of characters that stand before it. -/
theorem eq_of_length_text {first second rest others : Buffer} {character other : Char}
    (same : first ++ .char character :: rest = second ++ .char other :: others)
    (length : first.text.length = second.text.length) : first = second := by
  induction first generalizing second with
  | nil =>
      rcases second with _ | ⟨unit, second⟩
      · rfl
      · rw [List.nil_append, List.cons_append, List.cons.injEq] at same
        rw [← same.1, text_cons] at length
        simp [BodyUnit.char?] at length
  | cons unit first step =>
      rcases second with _ | ⟨head, second⟩
      · rw [List.nil_append, List.cons_append, List.cons.injEq] at same
        rw [same.1, text_cons] at length
        simp [BodyUnit.char?] at length
      · rw [List.cons_append, List.cons_append, List.cons.injEq] at same
        rcases same with ⟨rfl, same⟩
        rw [text_cons, text_cons, List.length_append, List.length_append,
          Nat.add_left_cancel_iff] at length
        rw [step same length]

theorem eq_of_width {first second rest others : Buffer} (same : first ++ rest = second ++ others)
    (width : first.width = second.width) : first = second ∧ rest = others := by
  induction first generalizing second with
  | nil =>
      rcases second with _ | ⟨unit, second⟩
      · exact ⟨rfl, same⟩
      · have positive := width_pos (List.cons_ne_nil unit second)
        rw [← width, width_nil] at positive
        exact absurd positive (Nat.lt_irrefl 0)
  | cons unit first step =>
      rcases second with _ | ⟨head, second⟩
      · have positive := width_pos (List.cons_ne_nil unit first)
        rw [width, width_nil] at positive
        exact absurd positive (Nat.lt_irrefl 0)
      · rw [List.cons_append, List.cons_append, List.cons.injEq] at same
        rcases same with ⟨rfl, same⟩
        rw [width_cons, width_cons, Nat.add_left_cancel_iff] at width
        rcases step same width with ⟨rfl, rfl⟩
        exact ⟨rfl, rfl⟩

/-- A token that stands once is spanned by the same units in every split of a buffer. -/
theorem Spans.unique {buffer : Buffer} {token : Text} (once : token.StandsOnce buffer.text)
    {before covered after otherBefore otherCovered otherAfter : Buffer}
    (split : buffer = before ++ (covered ++ after)) (spans : covered.Spans token)
    (otherSplit : buffer = otherBefore ++ (otherCovered ++ otherAfter))
    (otherSpans : otherCovered.Spans token) : before = otherBefore ∧ covered = otherCovered := by
  rcases once with ⟨place, only⟩
  have stands {front covered back : Buffer} (split : buffer = front ++ (covered ++ back))
      (spans : covered.Spans token) : front.text.length = place := by
    refine (only _).mp ?_
    rw [split, text_append, text_append, spans.spelled]
    exact Text.standsAt_append _ _ _
  have length := (stands split spans).trans (stands otherSplit otherSpans).symm
  have same := split.symm.trans otherSplit
  have begins : before = otherBefore := by
    rcases spans.begins with ⟨character, rest, rfl⟩
    rcases otherSpans.begins with ⟨other, others, rfl⟩
    exact eq_of_length_text same length
  subst begins
  refine ⟨rfl, ?_⟩
  have inner := List.append_cancel_left same
  have spelled := congrArg List.length (spans.spelled.trans otherSpans.spelled.symm)
  rcases spans.ends with ⟨front, character, rfl⟩
  rcases otherSpans.ends with ⟨otherFront, other, rfl⟩
  rw [List.append_assoc, List.append_assoc, List.singleton_append, List.singleton_append] at inner
  rw [text_append, text_append, List.length_append, List.length_append] at spelled
  have ends := eq_of_length_text inner (Nat.add_right_cancel spelled)
  subst ends
  rw [List.append_cancel_left_eq, List.cons.injEq] at inner
  rw [inner.1]

end Docs.Buffer

namespace Cut

variable {units : Target → Buffer} {index : Nat} {buffer shown : Buffer}
  {replacements : List Replacement}

/-- A cut is of units that span the token of each replacement. -/
theorem exists_spans (cut : Cut units index buffer replacements shown) :
    ∀ item ∈ replacements, ∃ before covered after : Buffer,
      buffer = before ++ (covered ++ after) ∧ covered.Spans item.target.token ∧
      item.start = index + before.width ∧ item.stop = item.start + covered.width := by
  induction cut with
  | done index rest => exact fun _ mem => absurd mem List.not_mem_nil
  | piece spans starts stops following step =>
      rename_i index gap covered rest shown replacement replacements
      intro item mem
      rcases List.mem_cons.mp mem with rfl | mem
      · exact ⟨gap, covered, rest, rfl, spans, starts, stops⟩
      · rcases step item mem with ⟨before, other, after, rfl, otherSpans, otherStarts, otherStops⟩
        refine ⟨gap ++ (covered ++ before), other, after, by simp, otherSpans, ?_, otherStops⟩
        rw [otherStarts, stops, starts, Buffer.width_append, Buffer.width_append]
        omega

/-- The replacements of a cut are in the order of their indices. -/
theorem rises (cut : Cut units index buffer replacements shown) :
    replacements.Pairwise fun first second => first.start < second.start := by
  induction cut with
  | done index rest => exact .nil
  | piece spans starts stops following step =>
      refine .cons ?_ step
      intro item mem
      rcases following.exists_spans item mem with ⟨_, _, _, _, _, begins, _⟩
      have positive := Buffer.width_pos spans.ne_nil
      omega

/-- A buffer is cut by replacements in one way only. -/
theorem unique {other : Buffer} (cut : Cut units index buffer replacements shown)
    (otherCut : Cut units index buffer replacements other) : shown = other := by
  induction cut generalizing other with
  | done index rest =>
      cases otherCut
      rfl
  | piece spans starts stops following step =>
      rename_i index gap covered rest shown replacement replacements
      generalize same : gap ++ (covered ++ rest) = whole at otherCut
      cases otherCut with
      | piece otherSpans otherStarts otherStops otherFollowing =>
          rcases Buffer.eq_of_width same (by omega) with ⟨rfl, behind⟩
          rcases Buffer.eq_of_width behind (by omega) with ⟨rfl, rfl⟩
          rw [step otherFollowing]

end Cut

/-- Replacing tokens in a buffer has one result. -/
theorem Substitutes.unique {items : List Target} {buffer shown other : Buffer}
    (substitutes : Substitutes items buffer shown) (also : Substitutes items buffer other) :
    shown = other := by
  rcases substitutes with ⟨hits, cut, differ, all⟩
  rcases also with ⟨otherHits, otherCut, otherDiffer, otherAll⟩
  have sub {hits others : List Replacement} {shown other : Buffer}
      (cut : Cut Target.units 1 buffer hits shown) (otherCut : Cut Target.units 1 buffer others other)
      (all : ∀ target, target ∈ hits.map (·.target) ↔
        target ∈ items ∧ target.token.StandsOnce buffer.text)
      (otherAll : ∀ target, target ∈ others.map (·.target) ↔
        target ∈ items ∧ target.token.StandsOnce buffer.text) : hits ⊆ others := by
    intro item mem
    have stands := (all _).mp (List.mem_map_of_mem mem)
    rcases List.mem_map.mp ((otherAll _).mpr stands) with ⟨found, foundMem, sameTarget⟩
    rcases cut.exists_spans item mem with ⟨_, _, _, split, spans, starts, stops⟩
    rcases otherCut.exists_spans found foundMem with
      ⟨_, _, _, foundSplit, foundSpans, foundStarts, foundStops⟩
    rw [sameTarget] at foundSpans
    rcases Buffer.Spans.unique stands.2 split spans foundSplit foundSpans with ⟨rfl, rfl⟩
    have isFound : item = found := by
      rcases item with ⟨target, start, stop⟩
      rcases found with ⟨other, first, last⟩
      change other = target at sameTarget
      change start = _ at starts
      change stop = start + _ at stops
      change first = _ at foundStarts
      change last = first + _ at foundStops
      rw [sameTarget, stops, foundStops, starts, foundStarts]
    rw [isFound]
    exact foundMem
  have perm : hits.Perm otherHits :=
    (List.perm_ext_iff_of_nodup (.of_map _ differ) (.of_map _ otherDiffer)).mpr fun item =>
      ⟨fun mem => sub cut otherCut all otherAll mem, fun mem => sub otherCut cut otherAll all mem⟩
  have same : hits = otherHits := perm.eq_of_pairwise
    (fun first second _ _ below above => absurd below (Nat.lt_asymm above)) cut.rises otherCut.rises
  subst same
  exact cut.unique otherCut

end DocBinder
