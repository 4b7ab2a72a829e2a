import DocBinder.Proofs.Replacement.Unique
import DocBinder.Proofs.Sync.Runs

/-!
# What documents make of an empty body

Documents that go through all phases fill the body of a run's document one after another, whatever
faults were planned for it. Some of the chunks with images may be refused, so that these images become
text. But for them, the body depends on nothing but the tokens that are put into the documents, the
languages of diagrams and the size of chunks, and without images it is the body that a run without
faults makes.
-/

namespace DocBinder.Sync

open Docs

variable {σ τ : Type}

/-! ## Documents that were written exactly -/

namespace Coordinator

/-- The body of a run's document became what writing a document makes of it. -/
structure Exactly (coordinator : Coordinator σ) (body? : σ → String → Option Buffer)
    (documentId : String) (document : SourceDocument) (before : Session σ) (_outcome : Outcome)
    (after : Session σ) : Prop where
  builds : after.builder = coordinator.builderAfter document before.builder
  writes : ∃ buffer shown, body? before.remote documentId = some buffer ∧
    body? after.remote documentId = some shown ∧
    coordinator.Writes before.builder document buffer shown

/-- Writing a document to a buffer has one result. -/
theorem Writes.unique {coordinator : Coordinator σ} {builder : Placeholder.BuilderState}
    {document : SourceDocument} {buffer shown other : Buffer}
    (writes : coordinator.Writes builder document buffer shown)
    (also : coordinator.Writes builder document buffer other) : shown = other := by
  rcases writes with ⟨built, body, builds, rfl, substitutes⟩
  rcases also with ⟨otherBuilt, otherBody, otherBuilds, split, otherSubstitutes⟩
  cases builds.symm.trans otherBuilds
  rcases List.append_inj' split rfl with ⟨rfl, _⟩
  exact substitutes.unique otherSubstitutes

/-- A document has no images, wherever it stands in a run. -/
def Imageless (coordinator : Coordinator σ) (document : SourceDocument) : Prop :=
  ∀ builder built, coordinator.build document builder = .ok built → built.images = []

/-- Without images, no chunk is refused. -/
theorem WritesSent.writes {coordinator : Coordinator σ} {builder : Placeholder.BuilderState}
    {document : SourceDocument} {buffer shown : Buffer}
    (writes : coordinator.WritesSent builder document buffer shown)
    (imageless : coordinator.Imageless document) :
    coordinator.Writes builder document buffer shown := by
  rcases writes with ⟨built, body, builds, rfl, sends⟩
  have noImages := imageless builder built builds
  rw [noImages] at sends
  refine ⟨built, body, builds, rfl, ?_⟩
  rw [noImages]
  exact sends.substitutes

end Coordinator

/-! ## Filling a body -/

/-- Documents are written to a buffer one after another. Some of the chunks with images may be refused,
so that these images become text. -/
inductive Coordinator.Fills (coordinator : Coordinator σ) :
    Placeholder.BuilderState → List SourceDocument → Buffer → Buffer → Prop where
  | nil (builder : Placeholder.BuilderState) (buffer : Buffer) :
      Fills coordinator builder [] buffer buffer
  | cons {builder : Placeholder.BuilderState} {document : SourceDocument}
      {rest : List SourceDocument} {buffer middle shown : Buffer}
      (writes : coordinator.WritesSent builder document buffer middle)
      (following : Fills coordinator (coordinator.builderAfter document builder) rest middle shown) :
      Fills coordinator builder (document :: rest) buffer shown

/-- A document that goes through all phases is written to the body of a run's document. -/
structure Coordinator.Sends (coordinator : Coordinator σ) (body? : σ → String → Option Buffer)
    (documentId : String) (document : SourceDocument) (before : Session σ) (outcome : Outcome)
    (after : Session σ) : Prop
    extends Recorded coordinator documentId document before outcome after where
  writes : outcome.succeeded = true → ∃ buffer shown,
    body? before.remote documentId = some buffer ∧ body? after.remote documentId = some shown ∧
    coordinator.WritesSent before.builder document buffer shown

/-- Documents that go through all phases fill the body of a run's document. -/
theorem Passes.exists_fills {coordinator : Coordinator σ} {body? : σ → String → Option Buffer}
    {documentId : String} {documents : List SourceDocument} {session last : Session σ}
    {outcomes : List Outcome}
    (passes : Passes coordinator documentId (coordinator.Sends body? documentId) documents session
      outcomes last)
    (succeeded : ∀ outcome ∈ outcomes, outcome.succeeded = true) {buffer : Buffer}
    (there : body? session.remote documentId = some buffer) :
    ∃ shown, body? last.remote documentId = some shown ∧
      coordinator.Fills session.builder documents buffer shown := by
  induction passes generalizing buffer with
  | nil session => exact ⟨buffer, there, .nil _ _⟩
  | cons records holds following step =>
      rcases holds.writes (succeeded _ List.mem_cons_self) with ⟨_, middle, same, reached, writes⟩
      cases there.symm.trans same
      rcases step (fun outcome mem => succeeded outcome (List.mem_cons_of_mem _ mem)) reached with
        ⟨shown, isShown, fills⟩
      rw [holds.builds] at fills
      exact ⟨shown, isShown, .cons writes fills⟩

namespace Coordinator

section Contract

variable {coordinator : Coordinator σ} {contract : coordinator.remote.Contract}
  {documentId : String} {origin session : Session σ}

/-- One document of a run, with any uploader. A document at which the run is given up is not
remembered. -/
theorem meets_recordDocument_sends (document : SourceDocument)
    (kept : Kept contract origin session)
    (there : (contract.body? session.remote documentId).isSome) :
    Meets (coordinator.recordDocument document documentId) session
      (fun outcome reached => (Kept contract origin reached ∧
          (contract.body? reached.remote documentId).isSome) ∧
        coordinator.Sends contract.body? documentId document session outcome reached)
      (fun _ reached => Kept contract origin reached ∧
        reached.state = session.state ∧ reached.written = session.written) := by
  have keeps := meets_recordDocument_kept document kept there
  have records := coordinator.meets_recordDocument_recorded document documentId session
  rcases Option.isSome_iff_exists.mp there with ⟨buffer, there⟩
  have wellFormed := kept.sound _ _ there
  rcases wellFormed.ends with ⟨body, rfl⟩
  have writes : Meets (coordinator.recordDocument document documentId) session
      (fun outcome reached => outcome.succeeded = true → ∃ buffer shown,
        contract.body? session.remote documentId = some buffer ∧
        contract.body? reached.remote documentId = some shown ∧
        coordinator.WritesSent session.builder document buffer shown)
      (fun _ _ => True) := by
    refine meets_recordDocument document
      ((meets_writeDocument document wellFormed there).mono ?_ fun _ _ _ => trivial)
    rintro outcome reached ⟨left, _, holds, _, _, sends, _⟩ status _ succeeded
    rw [remember_remote]
    exact ⟨_, _, there, holds.body, sends (beq_iff_eq.mp succeeded)⟩
  refine (keeps.and (records.and writes)).mono ?_ ?_
  · rintro outcome reached ⟨keeps, recorded, writes⟩
    exact ⟨keeps, recorded, writes⟩
  · rintro failure reached ⟨⟨keeps, _⟩, ⟨agrees, _⟩, _⟩
    exact ⟨keeps, agrees.state, agrees.written⟩

/-- A run on a document that is there passes through all source documents, or up to one at which it is
given up, with any uploader. -/
theorem meets_writeAll_sends (sound : contract.Sound session.remote)
    (there : (contract.body? session.remote documentId).isSome)
    (documents : List SourceDocument) :
    Meets (coordinator.writeAll documents documentId) session
      (fun run reached => ∃ outcomes last log,
        Passes coordinator documentId (coordinator.Sends contract.body? documentId) documents
          session outcomes last ∧
        Kept contract session last ∧ reached = { last with log := log } ∧
        run = ⟨some documentId, outcomes⟩)
      (fun _ reached => ∃ front document rest outcomes middle,
        documents = front ++ document :: rest ∧
        Passes coordinator documentId (coordinator.Sends contract.body? documentId) front session
          outcomes middle ∧
        Kept contract session reached ∧
        reached.state = middle.state ∧ reached.written = middle.written) := by
  refine (meets_writeFrom (fun document before holds =>
    meets_recordDocument_sends document holds.1 holds.2) ⟨.refl sound, there⟩ _ documents).mono
    ?_ ?_
  · rintro run reached ⟨outcomes, last, log, passes, ⟨kept, _⟩, isReached, isRun⟩
    exact ⟨outcomes, last, log, passes, kept, isReached, isRun⟩
  · rintro failure reached ⟨front, document, rest, outcomes, middle, split, passes, _, _, ends⟩
    exact ⟨front, document, rest, outcomes, middle, split, passes, ends⟩

end Contract

/-! ## What a body depends on -/

/-- A coordinator puts tokens into a document as another one does into another document. -/
def Matches (first : Coordinator σ) (document : SourceDocument) (second : Coordinator τ)
    (other : SourceDocument) : Prop :=
  ∀ builder, Placeholder.build first.setup document.markdown document.directory builder =
    Placeholder.build second.setup other.markdown other.directory builder

/-- Without uploaders, tokens depend on nothing but the Markdown and the languages of diagrams. -/
theorem matches_bare {first : Coordinator σ} {second : Coordinator τ}
    {document other : SourceDocument} (alone : first.setup.uploader = none)
    (otherAlone : second.setup.uploader = none)
    (languages : first.setup.diagramLanguages = second.setup.diagramLanguages)
    (markdown : document.markdown = other.markdown) :
    first.Matches document second other := by
  intro builder
  rw [Placeholder.build_bare alone, Placeholder.build_bare otherAlone, languages, markdown]

/-- What documents make of a buffer depends on nothing but the tokens that are put into them, the
languages of diagrams and the size of chunks. -/
theorem Fills.congr {first : Coordinator σ} {second : Coordinator τ}
    (languages : first.diagramLanguages = second.diagramLanguages)
    (size : first.chunkSize = second.chunkSize) {builder : Placeholder.BuilderState}
    {documents others : List SourceDocument} {buffer shown : Buffer}
    (fills : first.Fills builder documents buffer shown)
    (same : List.Forall₂ (fun document other => first.Matches document second other)
      documents others) :
    second.Fills builder others buffer shown := by
  induction fills generalizing others with
  | nil builder buffer =>
      cases same
      exact .nil _ _
  | cons writes following step =>
      rename_i builder document rest buffer middle shown
      cases same with
      | cons isSame others =>
          have build := isSame { builder with log := [] }
          rcases writes with ⟨built, body, builds, rfl, sends⟩
          rw [Coordinator.build, build] at builds
          rw [compiled, languages, size] at sends
          refine .cons ⟨built, body, builds, rfl, sends⟩ ?_
          rw [Coordinator.builderAfter, ← build]
          exact step others

/-! ## Fresh bodies -/

/-- A session with a builder on a service without faults, which holds one empty document. -/
def freshSession (builder : Placeholder.BuilderState) : Session Service :=
  ⟨.ofTexts [("handbook", "Handbook", [])] .none, builder, some .empty, [], []⟩

/-- The body that documents make of an empty one in a fresh session. -/
def fresh (coordinator : Coordinator Service) (builder : Placeholder.BuilderState)
    (documents : List SourceDocument) : Option Buffer :=
  ((coordinator.writeAll documents "handbook").run (freshSession builder)).2.remote.body? "handbook"

/-- Without images and without faults, documents fill a body in one way. -/
theorem Fills.exists_passes {coordinator : Coordinator Service}
    (serves : coordinator.remote = Service.remote) {documentId : String}
    {builder : Placeholder.BuilderState} {documents : List SourceDocument} {buffer shown : Buffer}
    (fills : coordinator.Fills builder documents buffer shown)
    (imageless : ∀ document ∈ documents, coordinator.Imageless document)
    {session : Session Service} (sound : Service.contract.Sound session.remote)
    (quiet : session.remote.faults = .none) (isBuilder : session.builder = builder)
    (there : session.remote.body? documentId = some buffer) :
    ∃ outcomes last, Passes coordinator documentId (fun _ _ _ _ => True) documents session
        outcomes last ∧ last.remote.body? documentId = some shown := by
  rcases coordinator with ⟨remote, languages, setup, chunkSize, now⟩
  change remote = Service.remote at serves
  subst serves
  induction fills generalizing session with
  | nil builder buffer => exact ⟨[], session, .nil session, there⟩
  | cons sent following step =>
      subst isBuilder
      have writes := sent.writes (imageless _ List.mem_cons_self)
      rcases sent with ⟨built, _, builds, _⟩
      have records := (@meets_recordDocument_written Service _ Service.contract documentId session
        session _ ⟨built, builds⟩ (.refl sound) (Option.isSome_iff_exists.mpr ⟨_, there⟩)).run
      rw [Meets] at records
      split at records
      · rcases records with ⟨records, ⟨kept, _⟩, written⟩
        rcases written.ends with ⟨_, buffer, middle, same, bodies, also⟩ | spoiled
        · cases there.symm.trans same
          cases writes.unique also
          rcases step kept.sound (written.leads.trans quiet) written.builds
            ((congrFun bodies documentId).trans (Function.update_self ..))
            fun document mem => imageless document (List.mem_cons_of_mem _ mem) with
            ⟨outcomes, last, passes, isShown⟩
          exact ⟨_, last, .cons records trivial passes, isShown⟩
        · rcases spoiled.troubled with ⟨failure, troubled⟩
          exact absurd quiet troubled
      · rcases records with ⟨_, _, givenUp⟩
        exact absurd quiet givenUp.troubled

/-- A body is what documents make of an empty one, depending on which of the chunks with images are
refused. Without images, that is their fresh body. -/
structure Yields (coordinator : Coordinator Service) (builder : Placeholder.BuilderState)
    (documents : List SourceDocument) (body : Buffer) : Prop where
  fills : coordinator.Fills builder documents [BodyUnit.lineFeed] body
  fresh : (∀ document ∈ documents, coordinator.Imageless document) →
    coordinator.fresh builder documents = some body

theorem Fills.yields {coordinator : Coordinator Service}
    (serves : coordinator.remote = Service.remote) {builder : Placeholder.BuilderState}
    {documents : List SourceDocument} {body : Buffer}
    (fills : coordinator.Fills builder documents [BodyUnit.lineFeed] body) :
    coordinator.Yields builder documents body := by
  refine ⟨fills, fun imageless => ?_⟩
  have there : (freshSession builder).remote.body? "handbook" = some [BodyUnit.lineFeed] := rfl
  rcases fills.exists_passes serves imageless (Service.reachable_ofTexts _ _).sound rfl rfl there with
    ⟨outcomes, last, passes, isBody⟩
  rcases passes.exists_run with ⟨log, runs⟩
  rw [Coordinator.fresh, runs]
  exact isBody

end Coordinator

end DocBinder.Sync
