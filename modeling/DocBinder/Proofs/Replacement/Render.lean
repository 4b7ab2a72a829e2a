import DocBinder.Proofs.Replacement.Cut

/-!
# Buffers with some tokens replaced

A document that fails on the way to its last phase may have some of its tokens replaced and others
not, and images may stand in it as text. Where the tokens do not begin before some position, what
lies before it is left alone.
-/

namespace DocBinder

open Docs

/-- The units of a token that does not stand across the end of a buffer's front lie in the front or
behind it. -/
theorem Docs.Buffer.Spans.split_cases {gap covered rest first second : Buffer} {token : Text}
    (spans : covered.Spans token) (same : first ++ second = gap ++ (covered ++ rest))
    (clear : gap.text.length + token.length ≤ first.text.length ∨
      first.text.length ≤ gap.text.length) :
    (∃ between, first = gap ++ (covered ++ between) ∧ rest = between ++ second) ∨
      ∃ between, gap = first ++ between ∧ second = between ++ (covered ++ rest) := by
  rcases List.append_eq_append_iff.mp same with ⟨between, rfl, rfl⟩ | ⟨inside, rfl, covers⟩
  · exact .inr ⟨between, rfl, rfl⟩
  · rcases List.append_eq_append_iff.mp covers with ⟨between, rfl, rfl⟩ | ⟨left, rfl, rfl⟩
    · exact .inl ⟨between, rfl, rfl⟩
    · rcases inside with _ | ⟨unit, inner⟩
      · exact .inr ⟨[], by simp, by simp⟩
      · rcases List.eq_nil_or_concat left with rfl | ⟨front, last, rfl⟩
        · exact .inl ⟨[], by simp, by simp⟩
        · -- The first character of the token would stand in the front, and the last one behind it.
          exfalso
          rcases spans.begins with ⟨character, others, begins⟩
          rcases spans.ends with ⟨before, closing, ends⟩
          rw [List.cons_append, List.cons.injEq] at begins
          rw [List.concat_eq_append, ← List.append_assoc] at ends
          have isClosing := (List.append_inj' ends rfl).2
          rw [List.cons.injEq] at isClosing
          have length := congrArg List.length spans.spelled
          rw [begins.1, isClosing.1] at length
          rw [begins.1] at clear
          simp only [List.concat_eq_append, Buffer.text_append, Buffer.text_cons, BodyUnit.char?,
            Option.toList_some, List.length_append, List.length_cons, List.length_nil,
            Buffer.text_nil] at length clear
          omega

/-- Some tokens in a buffer, of targets with a property, are replaced by what shows the targets or
by their text. -/
inductive Renders (property : Target → Prop) : Buffer → Buffer → Prop where
  | done (rest : Buffer) : Renders property rest rest
  | piece {gap covered rest units shown : Buffer} {target : Target} (holds : property target)
      (spans : covered.Spans target.token)
      (shows : units = target.units ∨ units = target.fallbackUnits)
      (following : Renders property rest shown) :
      Renders property (gap ++ (covered ++ rest)) (gap ++ (units ++ shown))

namespace Renders

variable {property : Target → Prop} {buffer shown first second firstShown secondShown : Buffer}

theorem imp {other : Target → Prop} (implies : ∀ target, property target → other target)
    (renders : Renders property buffer shown) : Renders other buffer shown := by
  induction renders with
  | done rest => exact .done rest
  | piece holds spans shows following step => exact .piece (implies _ holds) spans shows step

/-- Behind what stays as it is, tokens are replaced. -/
theorem behind (gap : Buffer) (renders : Renders property buffer shown) :
    Renders property (gap ++ buffer) (gap ++ shown) := by
  cases renders with
  | done => exact .done _
  | piece holds spans shows following =>
      rw [← List.append_assoc, ← List.append_assoc gap]
      exact .piece holds spans shows following

theorem append (renders : Renders property first firstShown)
    (further : Renders property second secondShown) :
    Renders property (first ++ second) (firstShown ++ secondShown) := by
  induction renders with
  | done rest => exact further.behind rest
  | piece holds spans shows following step =>
      simp only [List.append_assoc]
      exact .piece holds spans shows step

theorem standsAt_piece {gap covered : Buffer} {token : Text} (spans : covered.Spans token)
    (rest : Buffer) : token.StandsAt (Buffer.text (gap ++ (covered ++ rest))) gap.text.length := by
  rw [Buffer.text_append, Buffer.text_append, spans.spelled]
  exact Text.standsAt_append _ _ _

/-- Where no token stands in a buffer, it is left alone. -/
theorem eq_of_absent (renders : Renders property buffer shown)
    (absent : ∀ target, property target → ¬ target.token <:+: buffer.text) : shown = buffer := by
  cases renders with
  | done => rfl
  | piece holds spans shows following =>
      exact absurd (Text.isInfix_iff.mpr ⟨_, standsAt_piece spans _⟩) (absent _ holds)

/-- Where no token stands across the end of a buffer's front, the front and what lies behind it are
replaced for themselves. -/
theorem exists_split (renders : Renders property (first ++ second) shown)
    (clear : ∀ target, property target → ∀ place,
      target.token.StandsAt (Buffer.text (first ++ second)) place →
      place + target.token.length ≤ first.text.length ∨ first.text.length ≤ place) :
    ∃ firstShown secondShown, shown = firstShown ++ secondShown ∧
      Renders property first firstShown ∧ Renders property second secondShown := by
  generalize same : first ++ second = buffer at renders clear
  induction renders generalizing first with
  | done rest => exact ⟨first, second, same.symm, .done first, .done second⟩
  | piece holds spans shows following step =>
      rename_i gap covered rest units shown target
      rcases spans.split_cases same (clear _ holds _ (standsAt_piece spans _)) with
        ⟨between, rfl, rfl⟩ | ⟨between, rfl, rfl⟩
      · have passed : Buffer.text (gap ++ (covered ++ (between ++ second))) =
            Buffer.text (gap ++ covered) ++ Buffer.text (between ++ second) := by
          simp
        rcases step rfl (by
          intro other isOther place stands
          have further := clear other isOther ((Buffer.text (gap ++ covered)).length + place) (by
            rw [passed]
            exact (Text.standsAt_append_right _ _ _ _).mpr stands)
          simp only [Buffer.text_append, List.length_append] at further
          omega) with ⟨firstShown, secondShown, rfl, firstRenders, secondRenders⟩
        refine ⟨gap ++ (units ++ firstShown), secondShown, by simp, ?_, secondRenders⟩
        exact .piece holds spans shows firstRenders
      · refine ⟨first, between ++ (units ++ shown), by simp, .done first, ?_⟩
        exact .piece holds spans shows following

/-- Where no token begins in the front of a buffer, the front is left alone. -/
theorem exists_behind (renders : Renders property (first ++ second) shown)
    (areTokens : ∀ target, property target → target.token.IsToken)
    (apart : ∀ target, property target → ∀ place,
      target.token.StandsAt (Buffer.text (first ++ second)) place → first.text.length ≤ place) :
    ∃ behind, shown = first ++ behind ∧ Renders property second behind := by
  rcases renders.exists_split fun target holds place stands => .inr (apart target holds place stands)
    with ⟨front, behind, rfl, firstRenders, secondRenders⟩
  refine ⟨behind, ?_, secondRenders⟩
  rw [firstRenders.eq_of_absent]
  intro target holds isInfix
  rcases Text.isInfix_iff.mp isInfix with ⟨place, stands⟩
  have within := stands.within (areTokens target holds).ne_nil
  have behind := apart target holds place (by
    rw [Buffer.text_append]
    exact (Text.standsAt_append_left _ within).mpr stands)
  have nonempty := List.length_pos_iff.mpr (areTokens target holds).ne_nil
  omega

/-- Other tokens are still there when tokens are replaced. -/
theorem isInfix_of_ne {token : Text} (isToken : token.IsToken)
    (others : ∀ target, property target → target.token.IsToken ∧ token ≠ target.token)
    (renders : Renders property buffer shown) (isInfix : token <:+: buffer.text) :
    token <:+: shown.text := by
  induction renders with
  | done rest => exact isInfix
  | piece holds spans shows following step =>
      rename_i gap covered rest units shown target
      rcases others target holds with ⟨isOther, differs⟩
      have otherStands : target.token.StandsAt (Buffer.text (gap ++ (covered ++ rest)))
          gap.text.length := standsAt_piece spans rest
      rcases Text.isInfix_iff.mp isInfix with ⟨place, stands⟩
      rcases Nat.lt_trichotomy place gap.text.length with before | same | behind
      · have within := isToken.apart isOther stands otherStands before
        rw [Buffer.text_append, Text.standsAt_append_left _ within] at stands
        rw [Buffer.text_append]
        exact (Text.isInfix_iff.mpr ⟨place, stands⟩).trans (List.prefix_append _ _).isInfix
      · subst same
        exact absurd (isToken.eq_of_standsAt isOther stands otherStands) differs
      · have passed := isOther.apart isToken otherStands stands behind
        have length : (Buffer.text (gap ++ covered)).length =
            gap.text.length + target.token.length := by
          rw [Buffer.text_append, List.length_append, spans.spelled]
        rw [← length] at passed
        rw [← List.append_assoc, Buffer.text_append, ← Nat.add_sub_cancel' passed,
          Text.standsAt_append_right] at stands
        have stays := step (Text.isInfix_iff.mpr ⟨_, stands⟩)
        rw [← List.append_assoc, Buffer.text_append]
        exact stays.trans (List.suffix_append _ _).isInfix

end Renders

/-- What a cut shows, some tokens being replaced. -/
theorem Cut.renders {units : Target → Buffer} {index : Nat} {buffer shown : Buffer}
    {replacements : List Replacement} (cut : Cut units index buffer replacements shown)
    (shows : ∀ target, units target = target.units ∨ units target = target.fallbackUnits) :
    Renders (· ∈ replacements.map (·.target)) buffer shown := by
  induction cut with
  | done index rest => exact .done rest
  | piece spans starts stops following step =>
      refine .piece (List.mem_cons_self ..) spans (shows _) ?_
      exact step.imp fun target mem => List.mem_cons_of_mem _ mem

end DocBinder
