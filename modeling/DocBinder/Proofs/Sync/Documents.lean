import DocBinder.Proofs.Replacement.Issue
import DocBinder.Proofs.Sync.Phases

/-!
# The documents of a run

What writing a document makes of a buffer, and how a run goes through its documents one after
another. A document that does not end as it was meant tells of a failed call, and so does a run
that is given up.
-/

namespace DocBinder.Sync

open Docs

variable {σ : Type}

namespace Coordinator

theorem exists_build {coordinator : Coordinator σ} (alone : coordinator.setup.uploader = none)
    (document : SourceDocument) (builder : Placeholder.BuilderState) :
    ∃ built, coordinator.build document builder = .ok built := by
  rcases Placeholder.exists_build coordinator.setup document.markdown document.directory
    { builder with log := [] } alone with ⟨built, gives, _⟩
  exact ⟨built, gives⟩

/-- The tokens of a document were counted between the builder before it and the one after it. -/
theorem issued_of_build {coordinator : Coordinator σ} {document : SourceDocument}
    {builder : Placeholder.BuilderState} {built : Placeholder.Built}
    (gives : coordinator.build document builder = .ok built) :
    built.Issued builder.counters (coordinator.builderAfter document builder).counters := by
  rcases (Placeholder.build_cases coordinator.setup document.markdown document.directory
    { builder with log := [] }).1 with ⟨other, same, issued⟩ | ⟨_, failure, fails⟩
  · rw [← build, gives, Except.ok.injEq] at same
    exact same ▸ issued
  · rw [← build, gives] at fails
    cases fails

/-- The content that Markdown with tokens compiles to. -/
def compiled (coordinator : Coordinator σ) (markdown : Text) : Compiled :=
  compile (Markdown.classify coordinator.diagramLanguages markdown)

/-- Writing a document puts the units of its content before the final line feed of a buffer. In the
whole buffer, the tokens that were issued for the document and stand once are then replaced. -/
def Writes (coordinator : Coordinator σ) (builder : Placeholder.BuilderState)
    (document : SourceDocument) (buffer shown : Buffer) : Prop :=
  ∃ built body, coordinator.build document builder = .ok built ∧
    buffer = body ++ [.lineFeed] ∧
    Substitutes (targets built.links built.images)
      (body ++ ((coordinator.compiled built.markdown).units ++ [.lineFeed])) shown

/-- Writing a document where some of the chunks with images may be refused, so that these images
become text. -/
def WritesSent (coordinator : Coordinator σ) (builder : Placeholder.BuilderState)
    (document : SourceDocument) (buffer shown : Buffer) : Prop :=
  ∃ built body, coordinator.build document builder = .ok built ∧
    buffer = body ++ [.lineFeed] ∧
    SubstitutesSent coordinator.chunkSize (targets built.links built.images)
      (body ++ ((coordinator.compiled built.markdown).units ++ [.lineFeed])) shown

/-- What writing a document can leave before the final line feed, wherever it ends. -/
def LeavesOf (coordinator : Coordinator σ) (builder : Placeholder.BuilderState)
    (document : SourceDocument) (body left : Buffer) : Prop :=
  left = body ∨ ∃ built, coordinator.build document builder = .ok built ∧
    Leaves built (coordinator.compiled built.markdown) body left

end Coordinator

/-! ## One document -/

/-- A call has failed. A document that went through all phases nevertheless has images as text. -/
structure Spoiled {remote : Remote σ} (contract : remote.Contract) (before after : σ)
    (outcome : Outcome) : Prop where
  troubled : ∃ failure, contract.Troubled failure before after
  fellBack : outcome.phase = .done → 0 < outcome.stats.imagesFallback

namespace Coordinator

variable {coordinator : Coordinator σ} {contract : coordinator.remote.Contract}
  {documentId : String} {origin session : Session σ} {body : Buffer} (document : SourceDocument)

/-- The phases of a document end in its outcome, or in the failure of a call. -/
theorem meets_writeBuilt {built : Placeholder.Built}
    (differ : ((targets built.links built.images).map Target.token).Nodup)
    (areTokens : ∀ target ∈ targets built.links built.images, target.token.IsToken)
    (wellFormed : (body ++ [BodyUnit.lineFeed] : Buffer).WellFormed)
    (holds : Holds contract documentId origin (body ++ [BodyUnit.lineFeed]) session) :
    Meets (coordinator.writeBuilt document documentId built) session
      (fun outcome reached => ∃ left : Buffer, (left ++ [BodyUnit.lineFeed] : Buffer).WellFormed ∧
        Holds contract documentId origin (left ++ [BodyUnit.lineFeed]) reached ∧
        (outcome.stats.directivesSkipped = 0 ∨
          Spoiled contract origin.remote reached.remote outcome) ∧
        Leaves built (coordinator.compiled built.markdown) body left ∧
        (outcome.phase = .done → SubstitutesSent coordinator.chunkSize
          (targets built.links built.images)
          (body ++ ((coordinator.compiled built.markdown).units ++ [BodyUnit.lineFeed]))
          (left ++ [BodyUnit.lineFeed])) ∧
        (outcome.phase = .done ∧ Substitutes (targets built.links built.images)
            (body ++ ((coordinator.compiled built.markdown).units ++ [BodyUnit.lineFeed]))
            (left ++ [BodyUnit.lineFeed]) ∨
          Spoiled contract origin.remote reached.remote outcome))
      (fun failure reached => ∃ left : Buffer, (left ++ [BodyUnit.lineFeed] : Buffer).WellFormed ∧
        Fails contract documentId origin (left ++ [BodyUnit.lineFeed]) failure reached ∧
        Leaves built (coordinator.compiled built.markdown) body left) := by
  refine .bind (.work ((meets_writePhases differ areTokens document rfl wellFormed holds).mono
    ?_ ?_))
  · rintro _ ⟨session, outcome⟩
      ⟨isDone, noneSkipped, left, wellFormed, holds, leaves, sends, meant⟩
    exact .pure _ ⟨left, wellFormed, holds, .inl noneSkipped, leaves, fun _ => sends,
      meant.imp (⟨isDone, ·⟩) fun ⟨fellBack, troubled⟩ => ⟨troubled, fun _ => fellBack⟩⟩
  · rintro failure ⟨session, outcome⟩ ⟨left, wellFormed, ⟨holds, troubled⟩, leaves⟩
    dsimp only
    split
    · have spoiled : Spoiled contract origin.remote session.remote
          (outcome.fail failure.message) := ⟨⟨failure, troubled⟩, by rintro ⟨⟩⟩
      exact .bind (.report _ (.pure _ ⟨left, wellFormed, holds.log _, .inr spoiled, leaves,
        by rintro ⟨⟩, .inr spoiled⟩))
    · exact .throw _ ⟨left, wellFormed, ⟨holds, troubled⟩, leaves⟩

/-- A document that gets its tokens is written, or a call fails. One that does not is left out. -/
theorem meets_writeDocument {body : Buffer}
    (wellFormed : (body ++ [BodyUnit.lineFeed] : Buffer).WellFormed)
    (holds : contract.body? session.remote documentId = some (body ++ [BodyUnit.lineFeed])) :
    Meets (coordinator.writeDocument document documentId) session
      (fun outcome reached => ∃ left : Buffer, (left ++ [BodyUnit.lineFeed] : Buffer).WellFormed ∧
        Holds contract documentId session (left ++ [BodyUnit.lineFeed]) reached ∧
        (outcome.stats.directivesSkipped = 0 ∨
          Spoiled contract session.remote reached.remote outcome) ∧
        coordinator.LeavesOf session.builder document body left ∧
        (outcome.phase = .done → coordinator.WritesSent session.builder document
          (body ++ [BodyUnit.lineFeed]) (left ++ [BodyUnit.lineFeed])) ∧
        ((∃ built, coordinator.build document session.builder = .ok built) →
          outcome.phase = .done ∧ coordinator.Writes session.builder document
              (body ++ [BodyUnit.lineFeed]) (left ++ [BodyUnit.lineFeed]) ∨
            Spoiled contract session.remote reached.remote outcome))
      (fun failure reached => ∃ left : Buffer, (left ++ [BodyUnit.lineFeed] : Buffer).WellFormed ∧
        Holds contract documentId session (left ++ [BodyUnit.lineFeed]) reached ∧
        coordinator.LeavesOf session.builder document body left ∧
        ((∃ built, coordinator.build document session.builder = .ok built) →
          contract.Troubled failure session.remote reached.remote)) := by
  have begins : Holds contract documentId session (body ++ [BodyUnit.lineFeed]) session := .refl holds
  refine .bind (.attempt (meets_buildTokens ?_ ?_))
  · intro built gives
    have issued := issued_of_build gives
    have begins : Holds contract documentId session (body ++ [BodyUnit.lineFeed]) { session with
        builder := coordinator.builderAfter document session.builder
        log := session.log ++ (coordinator.builderAfter document session.builder).log } :=
      ⟨begins.leads, begins.bodies⟩
    refine (meets_writeBuilt document issued.differ issued.isToken wellFormed begins).mono ?_ ?_
    · rintro outcome reached ⟨left, wellFormed, holds, noneSkipped, leaves, sends, meant⟩
      refine ⟨left, wellFormed, holds, noneSkipped, .inr ⟨built, gives, leaves⟩,
        fun isDone => ⟨built, body, gives, rfl, sends isDone⟩, fun _ => meant.imp_left ?_⟩
      rintro ⟨isDone, substitutes⟩
      exact ⟨isDone, built, body, gives, rfl, substitutes⟩
    · rintro failure reached ⟨left, wellFormed, ⟨holds, troubled⟩, leaves⟩
      exact ⟨left, wellFormed, holds, .inr ⟨built, gives, leaves⟩, fun _ => troubled⟩
  · intro failure refuses
    have impossible (built : Placeholder.Built)
        (gives : coordinator.build document session.builder = .ok built) : False := by
      rw [refuses] at gives
      cases gives
    dsimp only
    split
    · refine .throw _ ⟨body, wellFormed, ⟨begins.leads, begins.bodies⟩, .inl rfl, ?_⟩
      rintro ⟨built, gives⟩
      exact (impossible built gives).elim
    · refine .bind (.report _ (.pure _
        ⟨body, wellFormed, ⟨begins.leads, begins.bodies⟩, .inl rfl, .inl rfl, by rintro ⟨⟩, ?_⟩))
      rintro ⟨built, gives⟩
      exact (impossible built gives).elim

end Coordinator

/-! ## All documents -/

/-- A run goes through documents one after another, and something holds of each of them, its
outcome, and the sessions before and after it. -/
inductive Passes (coordinator : Coordinator σ) (documentId : String)
    (property : SourceDocument → Session σ → Outcome → Session σ → Prop) :
    List SourceDocument → Session σ → List Outcome → Session σ → Prop where
  | nil (session : Session σ) : Passes coordinator documentId property [] session [] session
  | cons {document : SourceDocument} {rest : List SourceDocument} {session middle last : Session σ}
      {outcome : Outcome} {outcomes : List Outcome}
      (records : (coordinator.recordDocument document documentId).run session =
        (.ok outcome, middle))
      (holds : property document session outcome middle)
      (following : Passes coordinator documentId property rest middle outcomes last) :
      Passes coordinator documentId property (document :: rest) session (outcome :: outcomes) last

namespace Passes

variable {coordinator : Coordinator σ} {documentId : String}
  {property : SourceDocument → Session σ → Outcome → Session σ → Prop}
  {documents first second : List SourceDocument} {session middle last : Session σ}
  {outcomes others : List Outcome}

theorem append (passes : Passes coordinator documentId property first session outcomes middle)
    (further : Passes coordinator documentId property second middle others last) :
    Passes coordinator documentId property (first ++ second) session (outcomes ++ others) last := by
  induction passes with
  | nil session => exact further
  | cons records holds following step => exact .cons records holds (step further)

theorem exists_split
    (passes : Passes coordinator documentId property (first ++ second) session outcomes last) :
    ∃ firstOutcomes secondOutcomes middle, outcomes = firstOutcomes ++ secondOutcomes ∧
      Passes coordinator documentId property first session firstOutcomes middle ∧
      Passes coordinator documentId property second middle secondOutcomes last := by
  induction first generalizing session outcomes with
  | nil => exact ⟨[], outcomes, session, rfl, .nil session, passes⟩
  | cons document rest step =>
      cases passes with
      | cons records holds following =>
          rcases step following with ⟨early, late, middle, rfl, begins, ends⟩
          exact ⟨_ :: early, late, middle, rfl, .cons records holds begins, ends⟩

/-- A run that passes through documents does nothing else but write to the log. -/
theorem meets_writeFrom (passes : Passes coordinator documentId property documents session outcomes last)
    (run : Run) :
    Meets (coordinator.writeFrom documentId run documents) session
      (fun result reached => ∃ log, reached = { last with log := log } ∧
        result = { run with outcomes := run.outcomes ++ outcomes }) never := by
  induction passes generalizing run with
  | nil session => exact .bind (.report _ (.pure _ ⟨_, rfl, by simp⟩))
  | cons records holds following step =>
      rename_i document rest session middle last outcome outcomes
      refine .bind (.of_run records ((step (run.record outcome)).mono ?_ fun _ _ fails => fails))
      rintro result reached ⟨log, isReached, rfl⟩
      exact ⟨log, isReached, by simp [Run.record]⟩

theorem exists_run (passes : Passes coordinator documentId property documents session outcomes last) :
    ∃ log, (coordinator.writeAll documents documentId).run session =
      (.ok ⟨some documentId, outcomes⟩, { last with log := log }) := by
  rcases (passes.meets_writeFrom ⟨some documentId, []⟩).exists_run with
    ⟨result, reached, runs, log, rfl, rfl⟩
  exact ⟨log, runs⟩

end Passes

namespace Coordinator

variable {coordinator : Coordinator σ} {documentId : String} {invariant : Session σ → Prop}
  {property : SourceDocument → Session σ → Outcome → Session σ → Prop}
  {fails : Session σ → Failure → Session σ → Prop}

/-- A run passes through all documents, or is given up at one of them. -/
theorem meets_writeFrom
    (step : ∀ document session, invariant session →
      Meets (coordinator.recordDocument document documentId) session
        (fun outcome reached => invariant reached ∧ property document session outcome reached)
        (fails session))
    {session : Session σ} (holds : invariant session) (run : Run)
    (documents : List SourceDocument) :
    Meets (coordinator.writeFrom documentId run documents) session
      (fun result reached => ∃ outcomes last log,
        Passes coordinator documentId property documents session outcomes last ∧
        invariant last ∧ reached = { last with log := log } ∧
        result = { run with outcomes := run.outcomes ++ outcomes })
      (fun failure reached => ∃ front document rest outcomes middle,
        documents = front ++ document :: rest ∧
        Passes coordinator documentId property front session outcomes middle ∧
        invariant middle ∧
        (coordinator.recordDocument document documentId).run middle = (.error failure, reached) ∧
        fails middle failure reached) := by
  induction documents generalizing session run with
  | nil =>
      exact .bind (.report _ (.pure _ ⟨[], session, _, .nil session, holds, rfl, by simp⟩))
  | cons document rest following =>
      refine .bind ((step document session holds).run.mono ?_ ?_)
      · rintro outcome middle ⟨records, still, isProperty⟩
        refine (following still (run.record outcome)).mono ?_ ?_
        · rintro result reached ⟨outcomes, last, log, passes, invariantLast, rfl, rfl⟩
          exact ⟨outcome :: outcomes, last, log, .cons records isProperty passes, invariantLast, rfl,
            by simp [Run.record]⟩
        · rintro failure reached
            ⟨front, other, behind, outcomes, last, rfl, passes, invariantLast, fails⟩
          exact ⟨document :: front, other, behind, outcome :: outcomes, last, rfl,
            .cons records isProperty passes, invariantLast, fails⟩
      · rintro failure reached ⟨records, fails⟩
        exact ⟨[], document, rest, [], session, rfl, .nil session, holds, records, fails⟩

end Coordinator

end DocBinder.Sync
