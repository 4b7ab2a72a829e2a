import DocBinder.Proofs.Replacement.References

/-!
# Texts in which parts give way

Where parts of a text give way to others and neither holds a line feed, each line changes by itself, and
the text keeps its lines. That is so whatever ends the lines, as long as nothing that gives way or takes
a place holds the end of one.
-/

namespace DocBinder

open Text

namespace Placeholder

variable {trades : Text → Text → Prop} {text shown rest further : Text} {character : Char}

/-- A text in which some parts give way to others. -/
inductive Traded (trades : Text → Text → Prop) : Text → Text → Prop
  | done : Traded trades [] []
  | kept (character : Char) {rest shown : Text} (following : Traded trades rest shown) :
      Traded trades (character :: rest) (character :: shown)
  | traded {source replacement rest shown : Text} (fit : trades source replacement)
      (following : Traded trades rest shown) : Traded trades (source ++ rest) (replacement ++ shown)

/-- No part that gives way, and none that takes a place, holds a character. -/
def Without (character : Char) (trades : Text → Text → Prop) : Prop :=
  ∀ source replacement, trades source replacement → character ∉ source ∧ character ∉ replacement

namespace Traded

theorem refl (trades : Text → Text → Prop) (text : Text) : Traded trades text text := by
  induction text with
  | nil => exact .done
  | cons character rest step => exact .kept character step

theorem append (traded : Traded trades text shown) (behind : Traded trades rest further) :
    Traded trades (text ++ rest) (shown ++ further) := by
  induction traded with
  | done => exact behind
  | kept character following step => exact .kept character step
  | traded fit following step =>
      rw [List.append_assoc, List.append_assoc]
      exact .traded fit step

theorem joinLines {texts shown : List Text} (traded : List.Forall₂ (Traded trades) texts shown) :
    Traded trades (joinLines texts) (joinLines shown) := by
  induction traded with
  | nil => exact .done
  | cons head tail step =>
      cases tail with
      | nil => exact head
      | cons next tail =>
          rw [joinLines_cons _ (List.cons_ne_nil _ _), joinLines_cons _ (List.cons_ne_nil _ _)]
          exact head.append (.kept '\n' step)

/-- What comes before the first part that gives way is the same. -/
theorem exists_first (traded : Traded trades text shown) :
    text = shown ∨ ∃ front source replacement rest further,
      text = front ++ (source ++ rest) ∧ shown = front ++ (replacement ++ further) ∧
        trades source replacement := by
  induction traded with
  | done => exact .inl rfl
  | kept character following step =>
      rcases step with rfl | ⟨front, source, replacement, rest, further, rfl, rfl, fit⟩
      · exact .inl rfl
      · exact .inr ⟨character :: front, source, replacement, rest, further, rfl, rfl, fit⟩
  | traded fit following step => exact .inr ⟨[], _, _, _, _, rfl, rfl, fit⟩

/-- If no part gives way to one that holds a character more often, the text does not. -/
theorem count_le (fewer : ∀ source replacement, trades source replacement →
      replacement.count character ≤ source.count character)
    (traded : Traded trades text shown) : shown.count character ≤ text.count character := by
  induction traded with
  | done => exact Nat.le_refl _
  | kept other following step =>
      rw [List.count_cons, List.count_cons]
      exact Nat.add_le_add_right step _
  | traded fit following step =>
      rw [List.count_append, List.count_append]
      exact Nat.add_le_add (fewer _ _ fit) step

/-! ## Lines -/

/-- Parts give way within their lines. -/
theorem lines (feeds : Without '\n' trades) (traded : Traded trades text shown) :
    List.Forall₂ (Traded trades) (lines text) (lines shown) := by
  induction traded with
  | done => exact .cons .done .nil
  | kept character following step =>
      rename_i rest shown
      by_cases isBreak : character = '\n'
      · subst isBreak
        rw [Text.lines, Text.lines, splitOn_cons_self, splitOn_cons_self]
        exact .cons .done step
      · rcases exists_splitOn_cons isBreak rest with ⟨_, _, restSplit, split⟩
        rcases exists_splitOn_cons isBreak shown with ⟨_, _, shownSplit, newSplit⟩
        rw [Text.lines, Text.lines, restSplit, shownSplit] at step
        rw [Text.lines, Text.lines, split, newSplit]
        cases step with
        | cons head tail => exact .cons (.kept character head) tail
  | traded fit following step =>
      rename_i source replacement rest shown
      rcases feeds _ _ fit with ⟨notSource, notReplacement⟩
      rcases exists_splitOn_append_of_not_mem notSource rest with ⟨_, _, restSplit, split⟩
      rcases exists_splitOn_append_of_not_mem notReplacement shown with ⟨_, _, shownSplit, newSplit⟩
      rw [Text.lines, Text.lines, restSplit, shownSplit] at step
      rw [Text.lines, Text.lines, split, newSplit]
      cases step with
      | cons head tail => exact .cons (.traded fit head) tail

variable (feeds : Without '\n' trades)
  (nonempty : ∀ source replacement, trades source replacement → source ≠ [] ∧ replacement ≠ [])

include feeds nonempty

theorem head?_iff_lineFeed (traded : Traded trades text shown) :
    text.head? = some '\n' ↔ shown.head? = some '\n' := by
  have apart {part behind : Text} (nonempty : part ≠ []) (free : '\n' ∉ part) :
      (part ++ behind).head? ≠ some '\n' := by
    rw [List.head?_append_of_ne_nil _ nonempty]
    exact fun isHead => free (List.mem_of_mem_head? isHead)
  cases traded with
  | done => rfl
  | kept character following => rfl
  | traded fit following =>
      rcases feeds _ _ fit with ⟨notSource, notReplacement⟩
      rcases nonempty _ _ fit with ⟨source, replacement⟩
      exact iff_of_false (apart source notSource) (apart replacement notReplacement)

/-- A carriage return is read together with a line feed behind it, and that stays where it is. -/
theorem normalizeNewlines (returns : Without '\r' trades) (traded : Traded trades text shown) :
    Traded trades (normalizeNewlines text) (normalizeNewlines shown) := by
  induction traded with
  | done => exact .done
  | kept character following step =>
      rename_i rest shown
      have sameHead := following.head?_iff_lineFeed feeds nonempty
      by_cases isReturn : character = '\r'
      · subst isReturn
        rw [normalizeNewlines_cons_carriageReturn, normalizeNewlines_cons_carriageReturn]
        by_cases isBreak : rest.head? = some '\n'
        · rw [if_pos isBreak, if_pos (sameHead.mp isBreak)]
          exact step
        · rw [if_neg isBreak, if_neg (mt sameHead.mpr isBreak)]
          exact .kept '\n' step
      · rw [normalizeNewlines_cons isReturn, normalizeNewlines_cons isReturn]
        exact .kept character step
  | traded fit following step =>
      rcases returns _ _ fit with ⟨notSource, notReplacement⟩
      rw [normalizeNewlines_append notSource, normalizeNewlines_append notReplacement]
      exact .traded fit step

end Traded

/-! ## References -/

section Replaced

variable {fits : Reference → Text → List Text → Prop} {found : List Reference} {put : List Text}

/-- What is left as it is written does not give way. -/
theorem Replaced.traded (replaced : Replaced fits text found shown put)
    (gives : ∀ reference ∈ found, ∀ replacement own, fits reference replacement own →
      replacement = reference.source ∨ trades reference.source replacement) :
    Traded trades text shown := by
  induction replaced with
  | done => exact .done
  | kept character following step => exact .kept character (step gives)
  | found fit following step =>
      have further := step fun other mem => gives other (List.mem_cons_of_mem _ mem)
      rcases gives _ List.mem_cons_self _ _ fit with rfl | trades
      · exact (Traded.refl _ _).append further
      · exact .traded trades further

end Replaced

end Placeholder

end DocBinder
