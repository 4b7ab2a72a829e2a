import DocBinder.Proofs.Buffer.Mirror
import DocBinder.Proofs.Buffer.Reading
import DocBinder.Proofs.Sync.Runs

/-!
# Runs that are cut off

A service may be lost after some number of calls, and every further call of a run fails then and changes
nothing. What such a run leaves is the state that the same run passes through when the service stays: the
states that can be reached in this way are those between any two calls of a run. Their bodies are well
formed as well. A document fetched in any of them is therefore read to its end, and what is seen of it
mirrors its body.
-/

namespace DocBinder

open Docs

namespace Docs

/-- A service, how many calls will still come through to it if they are limited, and the failure of the
others. -/
structure Severed where
  service : Service
  left : Option Nat
  loss : Failure

namespace Severed

/-- Make a call, as long as calls come through. -/
def call {α : Type} (operation : Call Service α) : Call Severed α :=
  ExceptT.mk fun state =>
    if state.left = some 0 then (.error state.loss, state)
    else
      let (result, service) := operation.run state.service
      (result, ⟨service, state.left.map (· - 1), state.loss⟩)

/-- The service as a remote that will be lost. -/
def remote : Remote Severed where
  fetch documentId := call (Service.remote.fetch documentId)
  create title := call (Service.remote.create title)
  update documentId requests := call (Service.remote.update documentId requests)
  reset := call Service.remote.reset
  clearTokens := call Service.remote.clearTokens
  authenticate := call Service.remote.authenticate

theorem meets_call {α : Type} {operation : Call Service α} {state : Severed}
    {returns : α → Service → Prop} {fails : Failure → Service → Prop}
    (meets : Meets operation state.service returns fails)
    (lost : fails state.loss state.service) :
    Meets (call operation) state (fun value reached => returns value reached.service)
      fun failure reached => fails failure reached.service := by
  by_cases isLost : state.left = some 0
  · have runs : (call operation).run state = (.error state.loss, state) := by
      rw [call, ExceptT.run_mk]
      exact if_pos isLost
    exact .of_run_error runs lost
  · have runs : (call operation).run state =
        ((operation.run state.service).1,
          ⟨(operation.run state.service).2, state.left.map (· - 1), state.loss⟩) := by
      rw [call, ExceptT.run_mk]
      exact if_neg isLost
    rw [Meets] at meets ⊢
    rw [runs]
    split at meets <;> rename_i ran <;> rw [ran] <;> exact meets

/-- The lost service keeps the contract that runs rely on. -/
def contract : remote.Contract where
  body? state := state.service.body?
  Leads _ _ := True
  Troubled _ _ _ := True
  refl _ := trivial
  trans _ _ := trivial
  before _ _ := trivial
  after _ _ := trivial
  fetches there := (meets_call ((Service.meets_fetch there).mono
    (fun _ _ holds => holds.2) fun _ _ holds => holds.2) rfl).mono
    (fun _ _ holds => ⟨trivial, holds⟩) fun _ _ holds => ⟨trivial, holds, trivial⟩
  updates there nonempty applies := (meets_call ((Service.meets_update there nonempty applies).mono
    (fun _ _ holds => holds.2) fun _ _ holds => holds.2) rfl).mono
    (fun _ _ holds => ⟨trivial, holds⟩) fun _ _ holds => ⟨trivial, holds, trivial⟩
  creates _ title := (meets_call ((Service.meets_create title).mono
    (fun _ _ holds => holds.2) fun _ _ holds => holds.2) rfl).mono
    (fun _ _ holds => ⟨trivial, holds⟩) fun _ _ holds => ⟨trivial, holds, trivial⟩
  renews operation isOperation state := by
    have renews : ∃ served attempt, operation = call served ∧ Service.renewal served attempt := by
      simp only [List.mem_cons, List.not_mem_nil, or_false] at isOperation
      rcases isOperation with rfl | rfl | rfl
      · exact ⟨_, _, rfl, Service.renewal_clearTokens⟩
      · exact ⟨_, _, rfl, Service.renewal_authenticate⟩
      · exact ⟨_, _, rfl, Service.renewal_reset⟩
    rcases renews with ⟨served, attempt, rfl, renewal⟩
    exact (meets_call ((renewal state.service).mono (fun _ _ holds => holds.2)
      fun _ _ holds => holds.2) rfl).mono
      (fun _ _ holds => ⟨trivial, holds⟩) fun _ _ holds => ⟨trivial, holds, trivial⟩

/-- Whatever runs have made of documents with texts, and wherever they were cut off: the pass over the body
of a document ends, and the document can be fetched unless a fault is planned for that call. What is seen of
it then mirrors its body. -/
theorem fetch_mirrors {state : Severed} (reachable : contract.Reachable state) {documentId : String}
    {body : Buffer} (there : state.service.body? documentId = some body) :
    Reads body (bodyParts 0 body) ∧
    Meets (Service.remote.fetch documentId) state.service
      (fun value reached => reached.body? = state.service.body? ∧
        (∃ title, value = body.toDocument documentId title) ∧
        (Snapshot.ofDocument value).Mirrors body)
      (fun failure reached => reached.body? = state.service.body? ∧
        state.service.injected? (.fetch documentId) = some failure) := by
  have wellFormed : body.WellFormed := reachable.sound documentId body there
  refine ⟨wellFormed.reads_bodyParts, (Service.meets_fetch there).mono ?_ ?_⟩
  · rintro value reached ⟨_, same, title, rfl⟩
    exact ⟨same, ⟨title, rfl⟩, wellFormed.mirrors documentId title⟩
  · rintro failure reached ⟨answered, same⟩
    exact ⟨same, answered.injected.symm⟩

end Severed

end Docs

namespace Sync

/-- A coordinator on a service that will be lost, without uploader and renderer. -/
def Coordinator.severed : Coordinator Severed :=
  ⟨Severed.remote, [], ⟨[], none, none, default⟩, 50, "2026-01-01T00:00:00"⟩

/-- The first session on a service that holds one document with a text and will be lost after a number of
calls. -/
def Session.untilLost (text : Text) (calls : Nat) : Session Severed :=
  ⟨⟨.ofTexts [("handbook", "Handbook", text)] .none, some calls,
    .of (.accessFailed "Connection lost")⟩, .initial, some .empty, [], []⟩

/-- The run over a table and an image that is cut off before the cells of the table are filled. -/
theorem Session.fetch_mirrors_lost :
    let reached := ((Coordinator.severed.writeAll
      [⟨"a.md", "A", "| h |\n|---|\n| c |\n\n![p](https://x.org/p.png)\n".toList, "", none⟩]
      "handbook").run (.untilLost "Old".toList 2)).2.remote
    ∃ body, reached.service.body? "handbook" = some body ∧ Reads body (bodyParts 0 body) ∧
      Meets (Service.remote.fetch "handbook") reached.service
        (fun value after => after.body? = reached.service.body? ∧
          (∃ title, value = body.toDocument "handbook" title) ∧
          (Snapshot.ofDocument value).Mirrors body)
        (fun failure after => after.body? = reached.service.body? ∧
          reached.service.injected? (.fetch "handbook") = some failure) := by
  intro reached
  have begins : Severed.contract.Reachable (Session.untilLost "Old".toList 2).remote :=
    .texts fun _ _ found => Service.exists_text_of_ofTexts found
  have there : (Severed.contract.body? (Session.untilLost "Old".toList 2).remote
      "handbook").isSome := rfl
  have stays : (reached.service.body? "handbook").isSome :=
    Meets.reached (fun after : Session Severed => (after.remote.service.body? "handbook").isSome)
      ((@Coordinator.meets_writeAll_kept _ .severed Severed.contract _ _ begins.sound there _).mono
        (fun _ _ kept => kept.stays _ there) fun _ _ kept => kept.stays _ there)
  rcases Option.isSome_iff_exists.mp stays with ⟨body, found⟩
  exact ⟨body, found, Severed.fetch_mirrors (.write _ begins rfl there) found⟩

end Sync

end DocBinder
