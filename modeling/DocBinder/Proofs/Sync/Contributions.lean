import DocBinder.Proofs.Content.Lines
import DocBinder.Proofs.Replacement.Behind
import DocBinder.Proofs.Sync.Earlier
import Mathlib.Logic.Relation

/-!
# What documents contribute

The documents of a run share one buffer, and the tokens of each are looked for in all of it. Where no
token of the run comes together from texts that hold none, a document still contributes the same
units whatever the others leave: its content, in which those tokens are replaced that stand there
once and not in the buffer that the run began with.
-/

namespace DocBinder.Sync.Coordinator

open Docs Relation

variable {σ : Type} (coordinator : Coordinator σ)

/-! ## The tokens of a run -/

/-- The token of a target was issued for a document. -/
def Owns (builder : Placeholder.BuilderState) (document : SourceDocument) (target : Target) :
    Prop :=
  ∃ built, coordinator.build document builder = .ok built ∧
    target ∈ targets built.links built.images

/-- The token of a target is issued in a run over documents. -/
inductive Issues : Placeholder.BuilderState → List SourceDocument → Target → Prop where
  | own {builder : Placeholder.BuilderState} {document : SourceDocument}
      {rest : List SourceDocument} {target : Target}
      (owns : coordinator.Owns builder document target) : Issues builder (document :: rest) target
  | later {builder : Placeholder.BuilderState} {document : SourceDocument}
      {rest : List SourceDocument} {target : Target}
      (issues : Issues (coordinator.builderAfter document builder) rest target) :
      Issues builder (document :: rest) target

variable {coordinator} {builder : Placeholder.BuilderState} {document : SourceDocument}
  {documents rest : List SourceDocument} {target other : Target}

theorem not_issues_nil : ¬ coordinator.Issues builder [] target := by
  rintro ⟨⟩

theorem issues_cons : coordinator.Issues builder (document :: rest) target ↔
    coordinator.Owns builder document target ∨
      coordinator.Issues (coordinator.builderAfter document builder) rest target := by
  constructor
  · rintro (owns | issues)
    · exact .inl owns
    · exact .inr issues
  · rintro (owns | issues)
    · exact .own owns
    · exact .later issues

theorem Owns.counted (owns : coordinator.Owns builder document target) :
    ∃ kind, builder.counters.Counted (coordinator.builderAfter document builder).counters kind
      target.token := by
  rcases owns with ⟨built, gives, isTarget⟩
  exact (issued_of_build gives).counted target isTarget

theorem Owns.isToken (owns : coordinator.Owns builder document target) : target.token.IsToken := by
  rcases owns.counted with ⟨kind, counted⟩
  exact counted.isToken

theorem Issues.counted (issues : coordinator.Issues builder documents target) :
    ∃ last kind, builder.counters.Counted last kind target.token := by
  induction issues with
  | own owns => exact ⟨_, owns.counted⟩
  | later issues step =>
      rename_i builder document rest target
      rcases step with ⟨last, kind, number, notBefore, below, same⟩
      have goesOn := (Placeholder.build_cases coordinator.setup document.markdown
        document.directory { builder with log := [] }).2.1 kind
      exact ⟨last, kind, number, Nat.le_trans goesOn notBefore, below, same⟩

theorem Issues.isToken (issues : coordinator.Issues builder documents target) :
    target.token.IsToken := by
  rcases issues.counted with ⟨last, kind, counted⟩
  exact counted.isToken

/-- No token is issued again for a later document. -/
theorem Owns.ne_of_later (owns : coordinator.Owns builder document target)
    (later : coordinator.Issues (coordinator.builderAfter document builder) rest other) :
    target.token ≠ other.token := by
  rcases owns.counted with ⟨kind, counted⟩
  rcases later.counted with ⟨last, otherKind, otherCounted⟩
  exact counted.ne_of_later otherCounted

/-! ## What documents leave -/

theorem appends_compiled (coordinator : Coordinator σ) (markdown : Text) :
    Appends (coordinator.compiled markdown).requests (coordinator.compiled markdown).tables :=
  (outline_compile coordinator.diagramLanguages markdown).appends

/-- Whatever a document comes to ends its last line. -/
theorem Becomes.endsLine {own : Buffer} (becomes : coordinator.Becomes builder document own) :
    own.text.EndsLine := by
  rcases becomes with rfl | ⟨built, gives, rfl | renders⟩
  · exact Text.endsLine_nil
  · exact (appends_compiled ..).endsLine_empty endsLine_compileFrom
  · have areTokens := (issued_of_build gives).isToken
    exact renders.endsLine areTokens ((appends_compiled ..).endsLine_whole endsLine_compileFrom)

/-- The units that a document contributes when it goes through all phases: its content, in which
those of its tokens are replaced that stand there once and not in the opening buffer. -/
def Contributes (coordinator : Coordinator σ) (opening : Buffer)
    (builder : Placeholder.BuilderState) (document : SourceDocument) (own : Buffer) : Prop :=
  ∃ built items, coordinator.build document builder = .ok built ∧
    Substitutes items ((coordinator.compiled built.markdown).units ++ [BodyUnit.lineFeed])
      (own ++ [BodyUnit.lineFeed]) ∧
    ∀ target, target ∈ items ↔ target ∈ targets built.links built.images ∧
      target.token.StandsOnce
        (Buffer.text ((coordinator.compiled built.markdown).units ++ [BodyUnit.lineFeed])) ∧
      ¬ target.token <:+: opening.text

/-- A document contributes the same units whatever the buffer is when it is written. -/
theorem Contributes.unique {opening own otherOwn : Buffer}
    (contributes : coordinator.Contributes opening builder document own)
    (also : coordinator.Contributes opening builder document otherOwn) : own = otherOwn := by
  rcases contributes with ⟨built, items, gives, substitutes, isItem⟩
  rcases also with ⟨otherBuilt, others, otherGives, otherSubstitutes, isOther⟩
  rw [gives, Except.ok.injEq] at otherGives
  subst otherGives
  have same := substitutes.congr_items fun target _ => (isItem target).trans (isOther target).symm
  exact List.append_cancel_right (same.unique otherSubstitutes)

/-! ## Where tokens can stand -/

section Unmixed

variable (coordinator) (issued : Target → Prop) (opening : Buffer)

/-- What the opening buffer comes to when tokens in it are replaced. -/
def Reaches (shown : Buffer) : Prop :=
  ReflTransGen (Renders issued) opening shown

/-- Behind whatever the opening buffer comes to, a document adds no token but its own: every token in
both together stands in the former, and stood in the opening buffer already, or it stands in the
latter and is the document's own. -/
def Tells (builder : Placeholder.BuilderState) (document : SourceDocument) : Prop :=
  ∀ own, coordinator.Becomes builder document own → ∀ shown, Reaches issued opening shown →
    ∀ target, issued target → ∀ place,
      target.token.StandsAt (Buffer.text (shown ++ own)) place →
      place + target.token.length ≤ shown.text.length ∧ target.token <:+: opening.text ∨
        shown.text.length ≤ place ∧ coordinator.Owns builder document target

/-- No token of a run comes together from parts of other texts. -/
inductive Unmixed : Placeholder.BuilderState → List SourceDocument → Prop where
  | nil (builder : Placeholder.BuilderState) : Unmixed builder []
  | cons {builder : Placeholder.BuilderState} {document : SourceDocument}
      {rest : List SourceDocument} (tells : coordinator.Tells issued opening builder document)
      (following : Unmixed (coordinator.builderAfter document builder) rest) :
      Unmixed builder (document :: rest)

/-- Before the rest of a run's documents, the buffer is what the opening one has come to and what the
documents before have left. The tokens of the rest stand in the former only, and there just if they
stood in the opening buffer. -/
structure Stands (builder : Placeholder.BuilderState) (rest : List SourceDocument)
    (shown tail : Buffer) : Prop where
  reaches : Reaches issued opening shown
  stays : ∀ target, coordinator.Issues builder rest target →
    target.token <:+: opening.text → target.token <:+: shown.text
  ends : tail.text.EndsLine
  within : ∀ other, Reaches issued opening other → ∀ target,
    coordinator.Issues builder rest target → ∀ place,
      target.token.StandsAt (Buffer.text (other ++ tail)) place →
      place + target.token.length ≤ other.text.length

end Unmixed

section Stands

variable {issued : Target → Prop} {opening shown tail own left : Buffer}

theorem Stands.first : coordinator.Stands issued opening builder documents opening [] where
  reaches := .refl
  stays := fun _ _ isInfix => isInfix
  ends := Text.endsLine_nil
  within := by
    intro other _ target issues place stands
    rw [List.append_nil] at stands
    exact stands.within issues.isToken.ne_nil

variable (tells : coordinator.Tells issued opening builder document)
  (stands : coordinator.Stands issued opening builder (document :: rest) shown tail)
  (areIssued : ∀ target, coordinator.Issues builder (document :: rest) target → issued target)

include stands

theorem Stands.not_infix_tail (issues : coordinator.Issues builder (document :: rest) target) :
    ¬ target.token <:+: tail.text := by
  intro isInfix
  rcases Text.isInfix_iff.mp isInfix with ⟨place, there⟩
  have within := stands.within shown stands.reaches target issues (shown.text.length + place) (by
    rw [Buffer.text_append]
    exact (Text.standsAt_append_right _ _ _ _).mpr there)
  have positive := List.length_pos_iff.mpr issues.isToken.ne_nil
  omega

/-- Replacing tokens of the next document changes what the opening buffer has come to only. -/
theorem Stands.exists_front {front : Buffer}
    (renders : Renders (coordinator.Owns builder document) (shown ++ tail) front) :
    ∃ reached, front = reached ++ tail ∧
      Renders (coordinator.Owns builder document) shown reached := by
  rcases renders.exists_split fun target owns place there =>
    .inl (stands.within shown stands.reaches target (.own owns) place there) with
    ⟨reached, behind, rfl, firstRenders, secondRenders⟩
  refine ⟨reached, ?_, firstRenders⟩
  rw [secondRenders.eq_of_absent fun target owns => stands.not_infix_tail (.own owns)]

include tells areIssued

theorem Stands.placed (becomes : coordinator.Becomes builder document own) {other : Buffer}
    (reaches : Reaches issued opening other)
    (issues : coordinator.Issues builder (document :: rest) target) {place : Nat}
    (there : target.token.StandsAt (Buffer.text (other ++ (tail ++ own))) place) :
    place + target.token.length ≤ other.text.length ∨
      (Buffer.text (other ++ tail)).length ≤ place ∧ coordinator.Owns builder document target := by
  have isToken := issues.isToken
  by_cases isEmpty : tail.text = []
  · have sameText : Buffer.text (other ++ (tail ++ own)) = Buffer.text (other ++ own) := by
      simp [isEmpty]
    rw [sameText] at there
    rw [Buffer.text_append, isEmpty, List.append_nil]
    exact (tells own becomes other reaches target (areIssued target issues) place there).imp_left
      And.left
  · have ends : (Buffer.text (other ++ tail)).EndsLine := by
      rw [Buffer.text_append]
      exact stands.ends.append_left isEmpty
    rw [← List.append_assoc, Buffer.text_append] at there
    rcases isToken.within_or_behind ends there with before | behind
    · have earlier := (Text.standsAt_append_left _ before).mp there
      exact .inl (stands.within other reaches target issues place earlier)
    · rw [← Nat.add_sub_cancel' behind, Text.standsAt_append_right] at there
      have inOwn := (Text.standsAt_append_right target.token other.text own.text _).mpr there
      rw [← Buffer.text_append] at inOwn
      rcases tells own becomes other reaches target (areIssued target issues) _ inOwn with
        ⟨within, _⟩ | ⟨_, owns⟩
      · have positive := List.length_pos_iff.mpr isToken.ne_nil
        omega
      · exact .inr ⟨behind, owns⟩

/-- Behind a document, the tokens of the others stand where they stood before. -/
theorem Stands.next {reached : Buffer}
    (renders : Renders (coordinator.Owns builder document) shown reached)
    (becomes : coordinator.Becomes builder document own) :
    coordinator.Stands issued opening (coordinator.builderAfter document builder) rest reached
      (tail ++ own) where
  reaches := stands.reaches.tail (renders.imp fun target owns => areIssued target (.own owns))
  stays := by
    intro target issues isInfix
    refine renders.isInfix_of_ne issues.isToken ?_ (stands.stays target (.later issues) isInfix)
    exact fun other owns => ⟨owns.isToken, (owns.ne_of_later issues).symm⟩
  ends := by
    rw [Buffer.text_append]
    exact stands.ends.append becomes.endsLine
  within := by
    intro other reaches target issues place there
    rcases stands.placed tells areIssued becomes reaches (.later issues) there with
      within | ⟨_, owns⟩
    · exact within
    · exact absurd rfl (owns.ne_of_later issues)

/-- A document stands behind what was left before it, wherever its phases end. -/
theorem Stands.exists_own (leaves : coordinator.LeavesOf builder document (shown ++ tail) left) :
    ∃ reached own, left = reached ++ (tail ++ own) ∧
      Renders (coordinator.Owns builder document) shown reached ∧
      coordinator.Becomes builder document own := by
  rcases leaves with rfl | ⟨built, gives, leaves⟩
  · exact ⟨shown, [], by simp, .done shown, .inl rfl⟩
  · cases leaves with
    | nothing => exact ⟨shown, [], by simp, .done shown, .inl rfl⟩
    | empty =>
        exact ⟨shown, _, by rw [List.append_assoc], .done shown, .inr ⟨built, gives, .inl rfl⟩⟩
    | whole renders =>
        have becomes : coordinator.Becomes builder document
            (coordinator.compiled built.markdown).units := .inr ⟨built, gives, .inr (.done _)⟩
        have renders := renders.imp fun target stands =>
          (⟨built, gives, stands.1⟩ : coordinator.Owns builder document target)
        rcases renders.exists_split (by
          intro target owns place there
          rw [List.append_assoc] at there
          refine (stands.placed tells areIssued becomes stands.reaches (.own owns) there).imp ?_
            And.left
          intro within
          rw [Buffer.text_append, List.length_append]
          omega) with ⟨front, own, rfl, frontRenders, ownRenders⟩
        rcases stands.exists_front frontRenders with ⟨reached, rfl, shownRenders⟩
        refine ⟨reached, own, by rw [List.append_assoc], shownRenders,
          .inr ⟨built, gives, .inr (ownRenders.imp ?_)⟩⟩
        rintro target ⟨other, otherGives, isTarget⟩
        rw [gives, Except.ok.injEq] at otherGives
        exact otherGives ▸ isTarget

theorem Stands.isInfix_iff (owns : coordinator.Owns builder document target) :
    target.token <:+: Buffer.text (shown ++ tail) ↔ target.token <:+: opening.text := by
  constructor
  · intro isInfix
    rcases Text.isInfix_iff.mp isInfix with ⟨place, there⟩
    have within := stands.within shown stands.reaches target (.own owns) place there
    rw [Buffer.text_append] at there
    have inShown := (Text.standsAt_append_left _ within).mp there
    rw [← List.append_nil shown] at inShown
    rcases tells [] (.inl rfl) shown stands.reaches target (areIssued target (.own owns)) place
      inShown with ⟨_, isEarlier⟩ | ⟨behind, _⟩
    · exact isEarlier
    · have positive := List.length_pos_iff.mpr owns.isToken.ne_nil
      omega
  · intro isInfix
    rw [Buffer.text_append]
    exact (stands.stays target (.own owns) isInfix).trans (List.prefix_append _ _).isInfix

/-- A document that is written to its end contributes its units behind what was left before it. -/
theorem Stands.exists_contribution {after : Buffer}
    (writes : coordinator.Writes builder document (shown ++ tail ++ [BodyUnit.lineFeed]) after) :
    ∃ reached own, after = reached ++ (tail ++ own) ++ [BodyUnit.lineFeed] ∧
      Renders (coordinator.Owns builder document) shown reached ∧
      coordinator.Becomes builder document own ∧
      coordinator.Contributes opening builder document own := by
  rcases writes with ⟨built, body, gives, split, substitutes⟩
  rcases List.append_inj' split rfl with ⟨rfl, _⟩
  have owns (target : Target) (isTarget : target ∈ targets built.links built.images) :
      coordinator.Owns builder document target := ⟨built, gives, isTarget⟩
  have becomes : coordinator.Becomes builder document
      (coordinator.compiled built.markdown).units := .inr ⟨built, gives, .inr (.done _)⟩
  have beforeBreak (target : Target) (isTarget : target ∈ targets built.links built.images)
      (units : Buffer) (place : Nat) :
      target.token.StandsAt (Buffer.text (units ++ [BodyUnit.lineFeed])) place ↔
        target.token.StandsAt units.text place := by
    have isToken := (owns target isTarget).isToken
    rw [Buffer.text_append]
    exact Text.standsAt_lineFeed isToken.ne_nil isToken.lineFeed_not_mem place
  rcases substitutes.exists_behind (fun target isTarget => (owns target isTarget).isToken) (by
    intro target isTarget place there
    rw [← List.append_assoc, beforeBreak target isTarget, List.append_assoc] at there
    refine (stands.placed tells areIssued becomes stands.reaches (.own (owns target isTarget))
      there).imp ?_ And.left
    intro within
    rw [Buffer.text_append, List.length_append]
    omega) with ⟨others, front, behind, rfl, frontRenders, behindSubstitutes, isOther⟩
  rcases stands.exists_front (frontRenders.imp owns) with ⟨reached, rfl, shownRenders⟩
  -- The final line feed is no part of a token.
  rcases behindSubstitutes with ⟨hits, cut, differ, all⟩
  have renders : Renders (· ∈ targets built.links built.images)
      ((coordinator.compiled built.markdown).units ++ [BodyUnit.lineFeed]) behind := by
    refine (cut.renders fun _ => .inl rfl).imp fun target isHit => ?_
    exact ((isOther target).mp ((all target).mp isHit).1).1
  rcases renders.exists_split (by
    intro target isTarget place there
    rw [beforeBreak target isTarget] at there
    exact .inl (there.within (owns target isTarget).isToken.ne_nil)) with
    ⟨own, last, rfl, ownRenders, lastRenders⟩
  have isBreak : last = [BodyUnit.lineFeed] := by
    apply lastRenders.eq_of_absent
    intro target isTarget isInfix
    have isToken := (owns target isTarget).isToken
    rcases List.exists_mem_of_ne_nil _ isToken.ne_nil with ⟨character, mem⟩
    have isBreak := isInfix.subset mem
    rw [show Buffer.text [BodyUnit.lineFeed] = ['\n'] from rfl, List.mem_singleton] at isBreak
    exact isToken.lineFeed_not_mem (isBreak ▸ mem)
  subst isBreak
  refine ⟨reached, own, by simp, shownRenders, .inr ⟨built, gives, .inr ownRenders⟩, built, others,
    gives, ⟨hits, cut, differ, all⟩, fun target => (isOther target).trans ?_⟩
  refine and_congr_right fun isTarget => and_congr_right fun _ => not_congr ?_
  exact stands.isInfix_iff tells areIssued (owns target isTarget)

end Stands

end DocBinder.Sync.Coordinator
