import DocBinder.Proofs.Sync.Documents
import DocBinder.Proofs.Sync.Prepare
import DocBinder.Proofs.Sync.Service

/-!
# Runs

A run over the documents of a project keeps every body well formed, and each of its documents is
written as it is meant to be unless a call has failed. So does every other run that follows, with
whatever faults, which is why the states that can be reached hold nothing but well-formed bodies.
-/

namespace DocBinder

open Docs

namespace Sync

variable {σ : Type}

section Contract

variable {coordinator : Coordinator σ} (contract : coordinator.remote.Contract)
  (documentId : String)

/-- A document of a run was written as it is meant to be, or a call has failed since the session
before it. -/
structure Written (origin : Session σ) (document : SourceDocument) (before : Session σ)
    (outcome : Outcome) (after : Session σ) : Prop
    extends Recorded coordinator documentId document before outcome after where
  begins : contract.Leads origin.remote before.remote
  leads : contract.Leads before.remote after.remote
  leaves : ∃ body left, contract.body? before.remote documentId = some (body ++ [BodyUnit.lineFeed]) ∧
    contract.body? after.remote documentId = some (left ++ [BodyUnit.lineFeed]) ∧
    coordinator.LeavesOf before.builder document body left
  ends : (outcome.phase = .done ∧ ∃ buffer shown,
      contract.body? before.remote documentId = some buffer ∧
      contract.body? after.remote =
        Function.update (contract.body? before.remote) documentId (some shown) ∧
      coordinator.Writes before.builder document buffer shown) ∨
    Spoiled contract before.remote after.remote outcome

/-- A call has failed since a session in a way that no document can take, and nothing was
remembered since then. -/
structure GivenUp (before : Session σ) (failure : Failure) (after : Session σ) : Prop where
  leads : contract.Leads before.remote after.remote
  state : after.state = before.state
  written : after.written = before.written
  troubled : contract.Troubled failure before.remote after.remote
  aborts : (failure.cause.isDocs && !failure.cause.isInvalidCredentials) = false

variable {contract} {documentId} {origin session : Session σ}

theorem Holds.kept {buffer : Buffer} {reached : Session σ} (kept : Kept contract origin session)
    (wellFormed : buffer.WellFormed)
    (holds : Holds contract documentId session buffer reached) : Kept contract origin reached where
  leads := contract.trans kept.leads holds.leads
  sound := (kept.update holds.leads wellFormed holds.bodies).sound
  stays := (kept.update holds.leads wellFormed holds.bodies).stays

theorem Kept.ofRemote {reached other : Session σ} (kept : Kept contract origin reached)
    (same : other.remote = reached.remote) : Kept contract origin other := by
  rcases kept with ⟨leads, sound, stays⟩
  rw [← same] at leads sound stays
  exact ⟨leads, sound, stays⟩

namespace Coordinator

/-- One document of a run, with any uploader. -/
theorem meets_recordDocument_kept (document : SourceDocument) (kept : Kept contract origin session)
    (there : (contract.body? session.remote documentId).isSome) :
    Meets (coordinator.recordDocument document documentId) session
      (fun _ reached => Kept contract origin reached ∧
        (contract.body? reached.remote documentId).isSome)
      (fun _ reached => Kept contract origin reached ∧
        (contract.body? reached.remote documentId).isSome) := by
  rcases Option.isSome_iff_exists.mp there with ⟨buffer, there⟩
  have wellFormed := kept.sound _ _ there
  rcases wellFormed.ends with ⟨body, rfl⟩
  refine meets_recordDocument document ((meets_writeDocument document wellFormed there).mono ?_ ?_)
  · rintro outcome reached ⟨left, wellFormed, holds, _⟩ status _
    have same := coordinator.remember_remote document documentId outcome reached
    refine ⟨(holds.kept kept wellFormed).ofRemote same, ?_⟩
    rw [same, holds.body]
    rfl
  · rintro failure reached ⟨left, wellFormed, holds, _⟩
    refine ⟨holds.kept kept wellFormed, ?_⟩
    rw [holds.body]
    rfl

/-- One document of a run that gets its tokens. -/
theorem meets_recordDocument_written {document : SourceDocument}
    (builds : ∃ built, coordinator.build document session.builder = .ok built)
    (kept : Kept contract origin session)
    (there : (contract.body? session.remote documentId).isSome) :
    Meets (coordinator.recordDocument document documentId) session
      (fun outcome reached => (Kept contract origin reached ∧
          (contract.body? reached.remote documentId).isSome) ∧
        Written contract documentId origin document session outcome reached)
      (fun failure reached => (Kept contract origin reached ∧
          (contract.body? reached.remote documentId).isSome) ∧
        GivenUp contract session failure reached) := by
  have keeps := meets_recordDocument_kept document kept there
  have records := coordinator.meets_recordDocument_recorded document documentId session
  rcases Option.isSome_iff_exists.mp there with ⟨buffer, there⟩
  have wellFormed := kept.sound _ _ there
  rcases wellFormed.ends with ⟨body, rfl⟩
  have writes : Meets (coordinator.recordDocument document documentId) session
      (fun outcome reached => contract.Leads session.remote reached.remote ∧
        (∃ left, contract.body? reached.remote documentId = some (left ++ [BodyUnit.lineFeed]) ∧
          coordinator.LeavesOf session.builder document body left) ∧
        ((outcome.phase = .done ∧ ∃ buffer shown,
            contract.body? session.remote documentId = some buffer ∧
            contract.body? reached.remote =
              Function.update (contract.body? session.remote) documentId (some shown) ∧
            coordinator.Writes session.builder document buffer shown) ∨
          Spoiled contract session.remote reached.remote outcome))
      (fun failure reached => contract.Leads session.remote reached.remote ∧
        contract.Troubled failure session.remote reached.remote) := by
    refine meets_recordDocument document
      ((meets_writeDocument document wellFormed there).mono ?_ ?_)
    · rintro outcome reached ⟨left, _, holds, _, leaves, _, meant⟩ status _
      rw [remember_remote]
      refine ⟨holds.leads, ⟨left, holds.body, leaves⟩, (meant builds).imp ?_ fun spoiled =>
        ⟨spoiled.troubled, spoiled.fellBack⟩⟩
      rintro ⟨isDone, writes⟩
      exact ⟨isDone, _, _, there, holds.bodies, writes⟩
    · rintro failure reached ⟨left, _, holds, _, troubled⟩
      exact ⟨holds.leads, troubled builds⟩
  refine (keeps.and (records.and writes)).mono ?_ ?_
  · rintro outcome reached ⟨keeps, recorded, leads, ⟨left, shows, leaves⟩, ends⟩
    exact ⟨keeps, recorded, kept.leads, leads, ⟨body, left, there, shows, leaves⟩, ends⟩
  · rintro failure reached ⟨keeps, ⟨agrees, aborts⟩, leads, troubled⟩
    exact ⟨keeps, leads, agrees.state, agrees.written, troubled, aborts⟩

/-- A run on a document that is there keeps all bodies well formed, with any uploader. -/
theorem meets_writeAll_kept (sound : contract.Sound session.remote)
    (there : (contract.body? session.remote documentId).isSome)
    (documents : List SourceDocument) :
    Meets (coordinator.writeAll documents documentId) session
      (fun _ reached => Kept contract session reached)
      (fun _ reached => Kept contract session reached) := by
  have step (document : SourceDocument) (before : Session σ)
      (holds : Kept contract session before ∧
        (contract.body? before.remote documentId).isSome) :=
    (meets_recordDocument_kept document holds.1 holds.2).mono
      (fun _ _ keeps => And.intro keeps trivial) fun _ _ keeps => keeps
  refine (meets_writeFrom step ⟨.refl sound, there⟩ _ documents).mono ?_ ?_
  · rintro run _ ⟨outcomes, last, log, _, ⟨kept, _⟩, rfl, _⟩
    exact kept.log log
  · rintro failure reached ⟨_, _, _, _, _, _, _, _, _, kept, _⟩
    exact kept

/-- A run on a document that is there passes through all source documents, or is given up because
a call has failed. -/
theorem meets_writeAll (alone : coordinator.setup.uploader = none)
    (sound : contract.Sound session.remote)
    (there : (contract.body? session.remote documentId).isSome)
    (documents : List SourceDocument) :
    Meets (coordinator.writeAll documents documentId) session
      (fun run reached => ∃ outcomes last log,
        Passes coordinator documentId (Written contract documentId session) documents session
          outcomes last ∧
        Kept contract session last ∧ (contract.body? last.remote documentId).isSome ∧
        reached = { last with log := log } ∧ run = ⟨some documentId, outcomes⟩)
      (fun failure reached => ∃ front document rest outcomes middle,
        documents = front ++ document :: rest ∧
        Passes coordinator documentId (Written contract documentId session) front session
          outcomes middle ∧
        Kept contract session middle ∧
        (coordinator.recordDocument document documentId).run middle = (.error failure, reached) ∧
        Kept contract session reached ∧ (contract.body? reached.remote documentId).isSome ∧
        GivenUp contract middle failure reached) := by
  refine (meets_writeFrom (fun document before holds =>
    meets_recordDocument_written (exists_build alone document _) holds.1 holds.2) ⟨.refl sound, there⟩ _
    documents).mono ?_ ?_
  · rintro run reached ⟨outcomes, last, log, passes, ⟨kept, stays⟩, isReached, isRun⟩
    exact ⟨outcomes, last, log, passes, kept, stays, isReached, isRun⟩
  · rintro failure reached
      ⟨front, document, rest, outcomes, middle, split, passes, ⟨before, _⟩, fails, ⟨kept, stays⟩,
        givenUp⟩
    exact ⟨front, document, rest, outcomes, middle, split, passes, before, fails, kept, stays,
      givenUp⟩

end Coordinator

end Contract

end Sync

/-! ## States that can be reached -/

/-- The states of a remote that documents with texts come to: runs prepare documents and write to
them, one after another, whether they are given up or not. Between them, everything but the bodies
may change, as the planned faults do. -/
inductive Docs.Remote.Contract.Reachable {σ : Type} {remote : Remote σ}
    (contract : remote.Contract) : σ → Prop where
  | texts {state : σ} (haveTexts : ∀ documentId body,
      contract.body? state documentId = some body → ∃ text, body = .ofText text) :
      Reachable contract state
  | change {state other : σ} (reachable : Reachable contract state)
      (same : contract.body? other = contract.body? state) : Reachable contract other
  | prepare {session : Sync.Session σ} {coordinator : Sync.Coordinator σ}
      {known : Option String} (title : String) (reachable : Reachable contract session.remote)
      (serves : coordinator.remote = remote)
      (there : ∀ documentId, known = some documentId →
        (contract.body? session.remote documentId).isSome) :
      Reachable contract ((coordinator.prepare known title).run session).2.remote
  | write {session : Sync.Session σ} {coordinator : Sync.Coordinator σ}
      {documentId : String} (documents : List Sync.SourceDocument)
      (reachable : Reachable contract session.remote) (serves : coordinator.remote = remote)
      (there : (contract.body? session.remote documentId).isSome) :
      Reachable contract ((coordinator.writeAll documents documentId).run session).2.remote

theorem Docs.Remote.Contract.Reachable.sound {σ : Type} {remote : Remote σ}
    {contract : remote.Contract} {state : σ} (reachable : contract.Reachable state) :
    contract.Sound state := by
  induction reachable with
  | texts haveTexts =>
      intro documentId body found
      rcases haveTexts documentId body found with ⟨text, rfl⟩
      exact Buffer.wellFormed_ofText text
  | change reachable same sound =>
      intro documentId body found
      rw [same] at found
      exact sound documentId body found
  | prepare title reachable serves there sound =>
      rename_i session coordinator known
      rcases coordinator with ⟨served, languages, setup, chunkSize, now⟩
      change served = remote at serves
      subst serves
      have meets := @Sync.Coordinator.meets_prepare σ ⟨served, languages, setup, chunkSize, now⟩
        contract session known sound there title
      refine Meets.reached (fun reached => contract.Sound reached.remote) (meets.mono ?_ ?_)
      · exact fun _ _ holds => holds.1.sound
      · exact fun _ _ holds => holds.1.kept.sound
  | write documents reachable serves there sound =>
      rename_i session coordinator documentId
      rcases coordinator with ⟨served, languages, setup, chunkSize, now⟩
      change served = remote at serves
      subst serves
      have meets := @Sync.Coordinator.meets_writeAll_kept σ
        ⟨served, languages, setup, chunkSize, now⟩ contract documentId session sound there documents
      exact Meets.reached (fun reached => contract.Sound reached.remote)
        (meets.mono (fun _ _ kept => kept.sound) fun _ _ kept => kept.sound)

/-- A service that holds documents with texts. -/
def Docs.Service.ofTexts (entries : List (String × String × Text)) (faults : Faults) : Service :=
  .ofDocuments (entries.map fun (documentId, title, text) => ⟨documentId, title, .ofText text⟩)
    faults

theorem Docs.Service.exists_text_of_ofTexts {entries : List (String × String × Text)}
    {faults : Faults} {documentId : String} {body : Buffer}
    (found : (Service.ofTexts entries faults).body? documentId = some body) :
    ∃ text, body = .ofText text := by
  rcases Option.map_eq_some_iff.mp found with ⟨document, isFound, rfl⟩
  rcases List.mem_map.mp (List.mem_of_find?_eq_some isFound) with ⟨entry, _, rfl⟩
  exact ⟨entry.2.2, rfl⟩

theorem Docs.Service.reachable_ofTexts (entries : List (String × String × Text))
    (faults : Faults) : Service.contract.Reachable (.ofTexts entries faults) :=
  .texts fun _ _ found => Service.exists_text_of_ofTexts found

/-! ## Runs without faults -/

namespace Sync

/-- A document went through all phases, and the body of its run's document became what writing it
makes of the body before, while no other body has changed. -/
structure Coordinator.Completes (coordinator : Coordinator Service) (documentId : String)
    (document : SourceDocument) (before : Session Service) (outcome : Outcome)
    (after : Session Service) : Prop where
  done : outcome.phase = .done
  writes : ∃ buffer shown, before.remote.body? documentId = some buffer ∧
    after.remote.body? = Function.update before.remote.body? documentId (some shown) ∧
    coordinator.Writes before.builder document buffer shown

theorem Passes.imp {σ : Type} {coordinator : Coordinator σ} {documentId : String}
    {property other : SourceDocument → Session σ → Outcome → Session σ → Prop}
    (implies : ∀ document before outcome after, property document before outcome after →
      other document before outcome after)
    {documents : List SourceDocument} {session last : Session σ} {outcomes : List Outcome}
    (passes : Passes coordinator documentId property documents session outcomes last) :
    Passes coordinator documentId other documents session outcomes last := by
  induction passes with
  | nil session => exact .nil session
  | cons records holds following step => exact .cons records (implies _ _ _ _ holds) step

/-- Without faults and without an uploader, a run on any document that can be reached brings every
source document to its end. Each one turns the body before it into that body with the units of its
own content before the final line feed, and with its tokens that stand just once replaced. -/
theorem Coordinator.exists_writeAll {coordinator : Coordinator Service} {session : Session Service}
    {documentId : String} (serves : coordinator.remote = Service.remote)
    (alone : coordinator.setup.uploader = none)
    (reachable : Service.contract.Reachable session.remote) (quiet : session.remote.faults = .none)
    (there : (session.remote.body? documentId).isSome) (documents : List SourceDocument) :
    ∃ outcomes last log,
      (coordinator.writeAll documents documentId).run session =
        (.ok ⟨some documentId, outcomes⟩, { last with log := log }) ∧
      Passes coordinator documentId (coordinator.Completes documentId) documents session outcomes
        last := by
  rcases coordinator with ⟨remote, languages, setup, chunkSize, now⟩
  change remote = Service.remote at serves
  subst serves
  have meets := @meets_writeAll Service ⟨Service.remote, languages, setup, chunkSize, now⟩
    Service.contract documentId session alone reachable.sound there documents
  have runs := meets.run
  rw [Meets] at runs
  split at runs
  · rcases runs with ⟨runs, outcomes, last, log, passes, _, _, rfl, rfl⟩
    refine ⟨outcomes, last, log, runs, passes.imp ?_⟩
    intro document before outcome after written
    rcases written.ends with ⟨isDone, writes⟩ | spoiled
    · exact ⟨isDone, writes⟩
    · rcases spoiled.troubled with ⟨failure, troubled⟩
      exact absurd (written.begins.trans quiet) troubled
  · rcases runs with ⟨_, _, _, _, _, middle, _, _, kept, _, _, _, givenUp⟩
    exact absurd (kept.leads.trans quiet) givenUp.troubled

/-- A coordinator on the service without uploader and renderer. -/
def Coordinator.plain : Coordinator Service :=
  ⟨Service.remote, [], ⟨[], none, none, default⟩, 50, "2026-01-01T00:00:00"⟩

/-- The first session on a service that holds one document with a text. -/
def Session.onText (text : Text) (faults : Faults) : Session Service :=
  ⟨.ofTexts [("handbook", "Handbook", text)] faults, .initial, some .empty, [], []⟩

theorem Coordinator.exists_writeAll_plain :
    ∃ outcomes last log,
      (Coordinator.plain.writeAll [⟨"a.md", "A", "# A\n\n[x](https://x.org)\n".toList, "", none⟩]
          "handbook").run (.onText "Old".toList .none) =
        (.ok ⟨some "handbook", outcomes⟩, { last with log := log }) ∧
      Passes .plain "handbook" (Coordinator.plain.Completes "handbook")
        [⟨"a.md", "A", "# A\n\n[x](https://x.org)\n".toList, "", none⟩]
        (.onText "Old".toList .none) outcomes last :=
  Coordinator.exists_writeAll rfl rfl (Service.reachable_ofTexts _ _) rfl rfl _

end Sync

end DocBinder
