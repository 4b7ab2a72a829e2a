import DocBinder.Proofs.Sync.Runs

/-!
# Watching the service

A service under watch answers as it does otherwise, and every call is noted with the state it was
made in. What is noted in any run shows that the run never brings a failure upon itself: each batch
fits the body that it is sent for, request by request, and each call fails only with a fault that
was injected for it.
-/

namespace DocBinder

open Docs

namespace Docs

/-! ## Batches that fit -/

/-- Every index of a request lies inside the body and at the boundary of a unit, and every range
covers at least one index unit. -/
def Request.Fits (request : Request) (buffer : Buffer) : Prop :=
  match request with
  | .insertText _ (.at index) | .insertTable _ _ (.at index) | .insertImage _ index =>
      1 ≤ index ∧ index < buffer.endIndex ∧ buffer.Boundary index
  | .deleteRange start stop | .styleText start stop _ =>
      1 ≤ start ∧ start < stop ∧ stop ≤ buffer.endIndex ∧ buffer.Boundary start ∧
        buffer.Boundary stop
  | .insertText _ .bodyEnd | .insertTable _ _ .bodyEnd | .replaceText .. => True

/-- Every request of a batch fits the body that those before it have made. -/
inductive Fit : Buffer → List Request → Prop where
  | nil (buffer : Buffer) : Fit buffer []
  | cons {buffer next : Buffer} {request : Request} {rest : List Request} {effects : Effects}
      (fits : request.Fits buffer) (applies : request.apply buffer = .ok (next, effects))
      (following : Fit next rest) : Fit buffer (request :: rest)

namespace Buffer

variable {buffer : Buffer}

theorem boundary_of_position {index found : Nat} (located : buffer.position index = .ok found) :
    buffer.Boundary index := by
  rcases position_eq_ok located with ⟨before, after, split, isIndex, _⟩
  exact ⟨before, after, split, isIndex⟩

theorem fits_of_insertPosition {index found : Nat}
    (located : buffer.insertPosition (.at index) = .ok found) :
    1 ≤ index ∧ index < buffer.endIndex ∧ buffer.Boundary index := by
  rw [insertPosition] at located
  split at located
  · rename_i inside
    exact ⟨inside.1, inside.2, boundary_of_position located⟩
  · cases located

theorem fits_of_rangePositions {start stop : Nat} {found : Nat × Nat}
    (located : buffer.rangePositions start stop = .ok found) :
    1 ≤ start ∧ start < stop ∧ stop ≤ buffer.endIndex ∧ buffer.Boundary start ∧
      buffer.Boundary stop := by
  rw [rangePositions] at located
  split at located
  · rename_i inside
    rcases Except.exists_of_bind_eq_ok located with ⟨first, firstFound, located⟩
    rcases Except.exists_of_bind_eq_ok located with ⟨last, lastFound, _⟩
    exact ⟨inside.1, inside.2.1, inside.2.2, boundary_of_position firstFound,
      boundary_of_position lastFound⟩
  · cases located

end Buffer

theorem Request.fits_of_apply {request : Request} {buffer : Buffer} {result : Buffer × Effects}
    (applies : request.apply buffer = .ok result) : request.Fits buffer := by
  cases request with
  | insertText text place =>
      cases place with
      | bodyEnd => trivial
      | «at» index =>
          rcases Except.exists_of_bind_eq_ok applies with ⟨found, located, _⟩
          exact Buffer.fits_of_insertPosition located
  | insertTable rows columns place =>
      cases place with
      | bodyEnd => trivial
      | «at» index =>
          rcases Except.exists_of_bind_eq_ok applies with ⟨found, located, _⟩
          exact Buffer.fits_of_insertPosition located
  | insertImage uri index =>
      rcases Except.exists_of_bind_eq_ok applies with ⟨found, located, _⟩
      exact Buffer.fits_of_insertPosition located
  | deleteRange start stop =>
      rcases Except.exists_of_bind_eq_ok applies with ⟨found, located, _⟩
      exact Buffer.fits_of_rangePositions located
  | styleText start stop style =>
      rcases Except.exists_of_bind_eq_ok applies with ⟨found, located, _⟩
      exact Buffer.fits_of_rangePositions located
  | replaceText find replacement matchCase => trivial

/-- A batch that the service can apply fits. -/
theorem fit_of_applyBatch {requests : List Request} {buffer : Buffer} {result : Buffer × Effects}
    (applies : applyBatch buffer requests = .ok result) : Fit buffer requests := by
  induction requests generalizing buffer result with
  | nil => exact .nil buffer
  | cons request rest step =>
      rcases Except.exists_of_bind_eq_ok applies with ⟨⟨next, effects⟩, here, further⟩
      rcases Except.exists_of_bind_eq_ok further with ⟨followed, following, _⟩
      exact .cons (Request.fits_of_apply here) here (step following)

/-! ## Calls under watch -/

/-- A call that was made: the service it found, what it was about, and its failure if it failed. -/
structure Observed where
  service : Service
  attempt : Attempt
  failure : Option Failure

/-- A call is sound when it fails just with the fault that is injected for it, and when the batch
that it sends fits the body of an existing document. -/
structure Observed.Sound (call : Observed) : Prop where
  answered : call.failure = call.service.injected? call.attempt
  fits : ∀ documentId requests, call.attempt = .update documentId requests →
    ∃ body, call.service.body? documentId = some body ∧ Fit body requests

/-- A service with the calls that were made so far. -/
structure Watch where
  service : Service
  calls : List Observed

namespace Watch

/-- Make a call and note it. -/
def observe {α : Type} (attempt : Attempt) (operation : Call Service α) : Call Watch α :=
  ExceptT.mk fun watch =>
    let (result, service) := operation.run watch.service
    let failure := match result with
      | .ok _ => none
      | .error failure => some failure
    (result, ⟨service, watch.calls ++ [⟨watch.service, attempt, failure⟩]⟩)

/-- The service under watch as a remote. -/
def remote : Remote Watch where
  fetch documentId := observe (.fetch documentId) (Service.remote.fetch documentId)
  create title := observe (.create title) (Service.remote.create title)
  update documentId requests :=
    observe (.update documentId requests) (Service.remote.update documentId requests)
  reset := observe .reset Service.remote.reset
  clearTokens := observe .clearTokens Service.remote.clearTokens
  authenticate := observe .authenticate Service.remote.authenticate

/-- Sound calls were made from one state to another. -/
def Leads (before after : Watch) : Prop :=
  ∃ calls, after.calls = before.calls ++ calls ∧ ∀ call ∈ calls, call.Sound

/-- Some call from one state to another failed so. -/
def Troubled (failure : Failure) (before after : Watch) : Prop :=
  ∃ calls, after.calls = before.calls ++ calls ∧ ∃ call ∈ calls, call.failure = some failure

/-- No call from one state to another failed. -/
def Quiet (before after : Watch) : Prop :=
  ∃ calls, after.calls = before.calls ++ calls ∧ ∀ call ∈ calls, call.failure = none

theorem Troubled.not_quiet {failure : Failure} {before after : Watch}
    (troubled : Troubled failure before after) : ¬ Quiet before after := by
  rcases troubled with ⟨calls, same, call, mem, failed⟩
  rintro ⟨others, sameOthers, quiet⟩
  rw [same, List.append_cancel_left_eq] at sameOthers
  subst sameOthers
  rw [quiet call mem] at failed
  cases failed

theorem meets_observe {α : Type} {attempt : Attempt} {operation : Call Service α} {watch : Watch}
    {returns : α → Service → Prop} {fails : Failure → Service → Prop}
    (meets : Meets operation watch.service
      (fun value reached => watch.service.Answered attempt none reached ∧ returns value reached)
      (fun failure reached =>
        watch.service.Answered attempt (some failure) reached ∧ fails failure reached))
    (fits : ∀ documentId requests, attempt = .update documentId requests →
      ∃ body, watch.service.body? documentId = some body ∧ Fit body requests) :
    Meets (observe attempt operation) watch
      (fun value reached => Leads watch reached ∧ returns value reached.service)
      (fun failure reached => Leads watch reached ∧ fails failure reached.service ∧
        Troubled failure watch reached) := by
  rw [Meets] at meets ⊢
  rw [observe, ExceptT.run_mk]
  split at meets <;> rename_i runs
  · rw [runs]
    refine ⟨⟨_, rfl, ?_⟩, meets.2⟩
    intro call mem
    rw [List.mem_singleton.mp mem]
    exact ⟨meets.1.injected, fits⟩
  · rw [runs]
    refine ⟨⟨_, rfl, ?_⟩, meets.2, _, rfl, _, List.mem_singleton.mpr rfl, rfl⟩
    intro call mem
    rw [List.mem_singleton.mp mem]
    exact ⟨meets.1.injected, fits⟩

theorem Leads.trans {first second third : Watch} (leads : Leads first second)
    (further : Leads second third) : Leads first third := by
  rcases leads with ⟨calls, same, sound⟩
  rcases further with ⟨others, sameOthers, soundOthers⟩
  refine ⟨calls ++ others, by rw [sameOthers, same, List.append_assoc], ?_⟩
  intro call mem
  rcases List.mem_append.mp mem with mem | mem
  · exact sound call mem
  · exact soundOthers call mem

theorem Troubled.before {failure : Failure} {first second third : Watch}
    (leads : Leads first second) (troubled : Troubled failure second third) :
    Troubled failure first third := by
  rcases leads with ⟨calls, same, _⟩
  rcases troubled with ⟨others, sameOthers, call, mem, failed⟩
  exact ⟨calls ++ others, by rw [sameOthers, same, List.append_assoc], call,
    List.mem_append_right _ mem, failed⟩

theorem Troubled.after {failure : Failure} {first second third : Watch}
    (troubled : Troubled failure first second) (leads : Leads second third) :
    Troubled failure first third := by
  rcases troubled with ⟨calls, same, call, mem, failed⟩
  rcases leads with ⟨others, sameOthers, _⟩
  exact ⟨calls ++ others, by rw [sameOthers, same, List.append_assoc], call,
    List.mem_append_left _ mem, failed⟩

/-- The contract of the service under watch: all calls are sound. -/
def contract : remote.Contract where
  body? watch := watch.service.body?
  Leads := Leads
  Troubled := Troubled
  refl watch := ⟨[], by rw [List.append_nil], fun _ mem => absurd mem List.not_mem_nil⟩
  trans := Leads.trans
  before := Troubled.before
  after := Troubled.after
  fetches there := (meets_observe (Service.meets_fetch there)
      (by rintro _ _ ⟨⟩)).mono
    (fun _ _ holds => holds) (fun _ _ holds => holds)
  updates there nonempty applies := (meets_observe (Service.meets_update there nonempty applies) (by
      rintro _ _ ⟨⟩
      exact ⟨_, there, fit_of_applyBatch applies⟩)).mono
    (fun _ _ holds => holds) (fun _ _ holds => holds)
  creates watch title := (meets_observe (Service.meets_create title) (by rintro _ _ ⟨⟩)).mono
    (fun _ _ holds => holds) (fun _ _ holds => holds)
  renews operation isOperation watch := by
    simp only [List.mem_cons, List.not_mem_nil, or_false] at isOperation
    rcases isOperation with rfl | rfl | rfl
    · exact meets_observe (Service.renewal_clearTokens watch.service) (by rintro _ _ ⟨⟩)
    · exact meets_observe (Service.renewal_authenticate watch.service) (by rintro _ _ ⟨⟩)
    · exact meets_observe (Service.renewal_reset watch.service) (by rintro _ _ ⟨⟩)

end Watch

end Docs

/-! ## Runs under watch -/

namespace Sync.Coordinator

/-- A document for which no call failed went through all phases. -/
def CompletesIfQuiet (_document : SourceDocument) (before : Session Watch) (outcome : Outcome)
    (after : Session Watch) : Prop :=
  before.remote.Quiet after.remote → outcome.phase = .done

theorem completesIfQuiet_of_written {languages : List Text} {setup : Placeholder.Setup}
    {chunkSize : Nat} {now documentId : String} {origin before after : Session Watch}
    {document : SourceDocument} {outcome : Outcome}
    (written : @Written Watch ⟨Watch.remote, languages, setup, chunkSize, now⟩ Watch.contract
      documentId origin document before outcome after) :
    CompletesIfQuiet document before outcome after := by
  intro quiet
  rcases written.ends with ⟨isDone, _⟩ | spoiled
  · exact isDone
  · rcases spoiled.troubled with ⟨failure, troubled⟩
    exact absurd quiet troubled.not_quiet

/-- From any state that runs under watch can reach, with any faults, preparations and runs make only
sound calls: their batches fit, and nothing fails but for an injected fault. A preparation or a run that
is given up is so for the failure of a call, and every document for which no call failed went
through all phases. -/
theorem watched_runs {coordinator : Coordinator Watch} {session : Session Watch}
    (serves : coordinator.remote = Watch.remote) (alone : coordinator.setup.uploader = none)
    (reachable : Watch.contract.Reachable session.remote) :
    (∀ known title, (∀ documentId, known = some documentId →
        (session.remote.service.body? documentId).isSome) →
      Meets (coordinator.prepare known title) session
        (fun _ reached => session.remote.Leads reached.remote)
        (fun failure reached => session.remote.Leads reached.remote ∧
          session.remote.Troubled failure reached.remote)) ∧
    ∀ documentId documents, (session.remote.service.body? documentId).isSome →
      Meets (coordinator.writeAll documents documentId) session
        (fun run reached => session.remote.Leads reached.remote ∧
          ∃ last log, Passes coordinator documentId CompletesIfQuiet documents session
              run.outcomes last ∧
            reached = { last with log := log })
        (fun failure reached => session.remote.Leads reached.remote ∧
          session.remote.Troubled failure reached.remote ∧
          ∃ front document rest outcomes middle, documents = front ++ document :: rest ∧
            Passes coordinator documentId CompletesIfQuiet front session outcomes middle ∧
            (coordinator.recordDocument document documentId).run middle =
              (.error failure, reached) ∧
            middle.remote.Troubled failure reached.remote) := by
  rcases coordinator with ⟨remote, languages, setup, chunkSize, now⟩
  change remote = Watch.remote at serves
  subst serves
  have sound : Watch.contract.Sound session.remote := reachable.sound
  constructor
  · intro known title there
    have meets := @meets_prepare Watch ⟨Watch.remote, languages, setup, chunkSize, now⟩
      Watch.contract session known sound there title
    exact meets.mono (fun _ _ holds => holds.1.leads)
      fun _ _ holds => ⟨holds.1.kept.leads, holds.2⟩
  · intro documentId documents there
    have meets := @meets_writeAll Watch ⟨Watch.remote, languages, setup, chunkSize, now⟩
      Watch.contract documentId session alone sound there documents
    refine meets.mono ?_ ?_
    · rintro run reached ⟨outcomes, last, log, passes, kept, _, rfl, rfl⟩
      exact ⟨kept.leads, last, log,
        passes.imp fun _ _ _ _ written => completesIfQuiet_of_written written, rfl⟩
    · rintro failure reached ⟨front, document, rest, outcomes, middle, split, passes, before,
        fails, kept, _, givenUp⟩
      exact ⟨kept.leads, givenUp.troubled.before before.leads, front, document, rest, outcomes,
        middle, split, passes.imp fun _ _ _ _ written => completesIfQuiet_of_written written,
        fails, givenUp.troubled⟩

/-- A coordinator under watch without uploader and renderer. -/
def watched : Coordinator Watch :=
  ⟨Watch.remote, [], ⟨[], none, none, default⟩, 50, "2026-01-01T00:00:00"⟩

/-- The first session under watch on a service that refuses images. -/
def refusingImages : Session Watch :=
  ⟨⟨.ofTexts [("handbook", "Handbook", "Old".toList)]
    { Faults.none with kinds := ["insertInlineImage"] }, []⟩, .initial, some .empty, [], []⟩

/-- Where images are refused, every call of a run is sound: the refused batch fits, and so does the
one that is sent in its place. -/
theorem watched_runs_refusingImages :
    Meets (watched.writeAll
        [⟨"a.md", "A", "# A\n\n![x](https://x.org/x.png)\n".toList, "", none⟩] "handbook")
      refusingImages
      (fun run reached => Watch.Leads refusingImages.remote reached.remote ∧
        ∃ last log, Passes watched "handbook" CompletesIfQuiet
            [⟨"a.md", "A", "# A\n\n![x](https://x.org/x.png)\n".toList, "", none⟩] refusingImages
            run.outcomes last ∧
          reached = { last with log := log })
      (fun _ reached => Watch.Leads refusingImages.remote reached.remote) := by
  have reachable : Watch.contract.Reachable refusingImages.remote := by
    refine .texts fun documentId body found => ?_
    change (Service.ofTexts _ _).body? documentId = some body at found
    exact Service.exists_text_of_ofTexts found
  have there : (refusingImages.remote.service.body? "handbook").isSome := rfl
  have runs := (@watched_runs watched refusingImages rfl rfl reachable).2 "handbook"
  -- The run itself is not to be evaluated.
  generalize [(⟨"a.md", "A", "# A\n\n![x](https://x.org/x.png)\n".toList, "", none⟩ :
    SourceDocument)] = documents
  exact (runs documents there).mono (fun _ _ holds => holds) fun _ _ holds => holds.1

end Sync.Coordinator

end DocBinder
