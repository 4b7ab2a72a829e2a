import DocBinder.Proofs.Replacement.Render
import DocBinder.Proofs.Replacement.Unique

/-!
# Replacing tokens behind a front

Where no token stands across the end of a buffer's front, replacing the tokens of the whole buffer
replaces those of the front and those behind it. What comes of the units behind depends on the front
only by the tokens that stand in it.
-/

namespace DocBinder

open Docs

namespace Cut

variable {units : Target → Buffer} {index : Nat} {buffer first second shown : Buffer}
  {hits : List Replacement}

/-- The same tokens are cut wherever the buffer begins. -/
theorem exists_at (other : Nat) (cut : Cut units index buffer hits shown) :
    ∃ moved, Cut units other buffer moved shown ∧ moved.map (·.target) = hits.map (·.target) := by
  induction cut generalizing other with
  | done index rest => exact ⟨[], .done other rest, rfl⟩
  | piece spans starts stops following step =>
      rename_i index gap covered rest shown replacement replacements
      rcases step (other + gap.width + covered.width) with ⟨moved, further, same⟩
      refine ⟨⟨replacement.target, other + gap.width, other + gap.width + covered.width⟩ :: moved,
        .piece spans rfl rfl further, ?_⟩
      rw [List.map_cons, List.map_cons, same]

theorem exists_front (cut : Cut units index (first ++ second) hits shown)
    (clear : ∀ item ∈ hits, ∀ place,
      item.target.token.StandsAt (Buffer.text (first ++ second)) place →
      place + item.target.token.length ≤ first.text.length ∨ first.text.length ≤ place) :
    ∃ early late firstShown secondShown, hits = early ++ late ∧ shown = firstShown ++ secondShown ∧
      Cut units index first early firstShown ∧
      Cut units (index + first.width) second late secondShown := by
  generalize same : first ++ second = buffer at cut clear
  induction cut generalizing first with
  | done index rest =>
      exact ⟨[], [], first, second, rfl, same.symm, .done index first, .done _ second⟩
  | piece spans starts stops following step =>
      rename_i index gap covered rest shown replacement replacements
      rcases spans.split_cases same (clear _ List.mem_cons_self _ (Renders.standsAt_piece spans _)) with
        ⟨between, rfl, rfl⟩ | ⟨between, rfl, rfl⟩
      · have passed : Buffer.text (gap ++ (covered ++ (between ++ second))) =
            Buffer.text (gap ++ covered) ++ Buffer.text (between ++ second) := by
          simp
        rcases step rfl (by
          intro item mem place stands
          have further := clear item (List.mem_cons_of_mem _ mem)
            ((Buffer.text (gap ++ covered)).length + place) (by
              rw [passed]
              exact (Text.standsAt_append_right _ _ _ _).mpr stands)
          simp only [Buffer.text_append, List.length_append] at further
          omega) with ⟨early, late, firstShown, secondShown, rfl, rfl, firstCut, secondCut⟩
        refine ⟨replacement :: early, late, gap ++ (units replacement.target ++ firstShown),
          secondShown, rfl, by simp, .piece spans starts stops firstCut, ?_⟩
        have indices : index + Buffer.width (gap ++ (covered ++ between)) =
            replacement.stop + between.width := by
          simp only [Buffer.width_append]
          omega
        rwa [indices]
      · refine ⟨[], replacement :: replacements, first,
          between ++ (units replacement.target ++ shown), rfl, by simp, .done index first, ?_⟩
        refine .piece spans ?_ stops following
        rw [starts, Buffer.width_append, Nat.add_assoc]

/-- The tokens of a cut stand in the buffer. -/
theorem isInfix (cut : Cut units index buffer hits shown) :
    ∀ item ∈ hits, item.target.token <:+: buffer.text := by
  intro item mem
  rcases cut.exists_spans item mem with ⟨before, covered, after, rfl, spans, _⟩
  exact Text.isInfix_iff.mpr ⟨_, Renders.standsAt_piece spans after⟩

end Cut

/-- A token that stands once behind a front and not in it stands once in the whole, and a token that
stands once in the whole does so where it stands. -/
theorem Text.standsOnce_append_iff {token first second : Text} (nonempty : token ≠ [])
    (clear : ∀ place, token.StandsAt (first ++ second) place →
      place + token.length ≤ first.length ∨ first.length ≤ place) :
    token.StandsOnce (first ++ second) ∧ token <:+: second ↔
      token.StandsOnce second ∧ ¬ token <:+: first := by
  have behind (place : Nat) := standsAt_append_right token first second place
  have positive := List.length_pos_iff.mpr nonempty
  constructor
  · rintro ⟨⟨place, only⟩, isInfix⟩
    rcases isInfix_iff.mp isInfix with ⟨distance, stands⟩
    have here := (only _).mp ((behind distance).mpr stands)
    refine ⟨⟨distance, fun other => ⟨fun otherStands => ?_, fun same => same ▸ stands⟩⟩, ?_⟩
    · have there := (only _).mp ((behind other).mpr otherStands)
      omega
    · intro isEarlier
      rcases isInfix_iff.mp isEarlier with ⟨early, earlyStands⟩
      have within := earlyStands.within nonempty
      have there := (only early).mp ((standsAt_append_left second within).mpr earlyStands)
      omega
  · rintro ⟨⟨distance, only⟩, notEarlier⟩
    have stands := (only distance).mpr rfl
    refine ⟨⟨first.length + distance, fun other => ⟨fun otherStands => ?_, ?_⟩⟩,
      isInfix_iff.mpr ⟨distance, stands⟩⟩
    · rcases clear other otherStands with within | notBefore
      · have early := (standsAt_append_left second within).mp otherStands
        exact absurd (isInfix_iff.mpr ⟨other, early⟩) notEarlier
      · rw [← Nat.add_sub_cancel' notBefore] at otherStands
        have same := (only _).mp ((behind _).mp otherStands)
        omega
    · rintro rfl
      exact (behind distance).mpr stands

namespace Substitutes

variable {items others : List Target} {buffer first second shown : Buffer}

theorem congr_items (substitutes : Substitutes items buffer shown)
    (same : ∀ target, target.token.StandsOnce buffer.text → (target ∈ items ↔ target ∈ others)) :
    Substitutes others buffer shown := by
  rcases substitutes with ⟨hits, cut, differ, all⟩
  refine ⟨hits, cut, differ, fun target => ?_⟩
  rw [all]
  exact and_congr_left fun once => same target once

/-- Replacing the tokens of a buffer replaces those in its front, and those behind it that do not stand
in the front as well. -/
theorem exists_behind (substitutes : Substitutes items (first ++ second) shown)
    (areTokens : ∀ target ∈ items, target.token.IsToken)
    (clear : ∀ target ∈ items, ∀ place,
      target.token.StandsAt (Buffer.text (first ++ second)) place →
      place + target.token.length ≤ first.text.length ∨ first.text.length ≤ place) :
    ∃ others firstShown secondShown, shown = firstShown ++ secondShown ∧
      Renders (· ∈ items) first firstShown ∧ Substitutes others second secondShown ∧
      ∀ target, target ∈ others ↔ target ∈ items ∧ target.token.StandsOnce second.text ∧
        ¬ target.token <:+: first.text := by
  rcases substitutes with ⟨hits, cut, differ, all⟩
  have isItem (item : Replacement) (mem : item ∈ hits) :
      item.target ∈ items ∧ item.target.token.StandsOnce (Buffer.text (first ++ second)) :=
    (all _).mp (List.mem_map_of_mem mem)
  rcases cut.exists_front fun item mem place stands => clear _ (isItem item mem).1 place stands with
    ⟨early, late, firstShown, secondShown, rfl, rfl, firstCut, secondCut⟩
  rcases secondCut.exists_at 1 with ⟨moved, movedCut, sameTargets⟩
  have spread (target : Target) (isTarget : target ∈ items) :=
    Text.standsOnce_append_iff (areTokens target isTarget).ne_nil (by
      rw [← Buffer.text_append]
      exact clear target isTarget)
  have isOther (target : Target) : target ∈ late.map (·.target) ↔
      target ∈ items ∧ target.token.StandsOnce second.text ∧ ¬ target.token <:+: first.text := by
    constructor
    · intro mem
      rcases List.mem_map.mp mem with ⟨item, isLate, rfl⟩
      rcases isItem item (List.mem_append_right _ isLate) with ⟨isTarget, once⟩
      rw [Buffer.text_append] at once
      exact ⟨isTarget, (spread _ isTarget).mp ⟨once, secondCut.isInfix item isLate⟩⟩
    · rintro ⟨isTarget, holds⟩
      have once := ((spread target isTarget).mpr holds).1
      rw [← Buffer.text_append] at once
      have isHit := (all target).mpr ⟨isTarget, once⟩
      rw [List.map_append, List.mem_append] at isHit
      rcases isHit with isEarly | isLate
      · rcases List.mem_map.mp isEarly with ⟨item, mem, rfl⟩
        exact absurd (firstCut.isInfix item mem) holds.2
      · exact isLate
  have renders : Renders (· ∈ items) first firstShown := by
    refine (firstCut.renders fun _ => .inl rfl).imp fun target mem => ?_
    rcases List.mem_map.mp mem with ⟨item, isEarly, rfl⟩
    exact (isItem item (List.mem_append_left _ isEarly)).1
  refine ⟨late.map (·.target), firstShown, secondShown, rfl, renders, ?_, isOther⟩
  refine ⟨moved, movedCut, ?_, fun target => ?_⟩
  · rw [sameTargets]
    rw [List.map_append] at differ
    exact differ.of_append_right
  · rw [sameTargets]
    exact ⟨fun mem => ⟨mem, ((isOther target).mp mem).2.1⟩, And.left⟩

end Substitutes

end DocBinder
