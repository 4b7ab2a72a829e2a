import DocBinder.Proofs.Sync.Watch

/-!
# Calls that were made for a document

The work on a document fetches it and sends batches for it, each of which is accepted or refused.
Whatever faults are planned, the body of the document is what the accepted batches make of it, one after
another, and a call that fails has no effect.
-/

namespace DocBinder

open Docs

namespace Docs

/-! ## Batches one after another -/

theorem applyBatches_append {buffer middle final : Buffer} {first second : List (List Request)}
    {early late : Effects} (begins : applyBatches buffer first = .ok (middle, early))
    (ends : applyBatches middle second = .ok (final, late)) :
    applyBatches buffer (first ++ second) =
      .ok (final, ⟨early.styled ++ late.styled, early.images ++ late.images⟩) := by
  induction first generalizing buffer early with
  | nil =>
      cases begins
      exact ends
  | cons batch rest step =>
      rcases Except.exists_of_bind_eq_ok begins with ⟨⟨next, here⟩, applies, following⟩
      rcases Except.exists_of_bind_eq_ok following with ⟨⟨reached, further⟩, applied, result⟩
      cases result
      simp only [List.cons_append, applyBatches, applies, step applied, bind, Except.bind, pure,
        Except.pure, List.append_assoc]

/-- The service has taken batches for a document, one after another, and no other body has changed. It
takes none for a document that does not exist. -/
structure Service.Takes (documentId : String) (batches : List (List Request))
    (before after : Service) : Prop where
  noted : after.batches = before.batches ++ batches
  bodies : match before.body? documentId with
    | none => batches = [] ∧ after.body? = before.body?
    | some body => ∃ final effects, applyBatches body batches = .ok (final, effects) ∧
        after.body? = Function.update before.body? documentId (some final)

namespace Service.Takes

variable {documentId : String} {first second third : Service} {early late : List (List Request)}

theorem nothing (noted : second.batches = first.batches) (same : second.body? = first.body?) :
    Takes documentId [] first second := by
  refine ⟨by rw [noted, List.append_nil], ?_⟩
  cases there : first.body? documentId with
  | none => exact ⟨rfl, same⟩
  | some body => exact ⟨body, _, rfl, by rw [same, ← there, Function.update_eq_self]⟩

theorem trans (takes : Takes documentId early first second)
    (further : Takes documentId late second third) :
    Takes documentId (early ++ late) first third := by
  refine ⟨by rw [further.noted, takes.noted, List.append_assoc], ?_⟩
  have begins := takes.bodies
  have ends := further.bodies
  cases there : first.body? documentId with
  | none =>
      rw [there] at begins
      rw [begins.2, there] at ends
      exact ⟨by rw [begins.1, ends.1, List.append_nil], ends.2⟩
  | some body =>
      rw [there] at begins
      rcases begins with ⟨middle, effects, applies, becomes⟩
      rw [becomes, Function.update_self] at ends
      rcases ends with ⟨final, others, following, becomesFinal⟩
      exact ⟨final, _, applyBatches_append applies following, by
        rw [becomesFinal, Function.update_idem]⟩

end Service.Takes

namespace Service

variable (service : Service) (documentId : String)

/-- Whether it fails or not, a fetch changes no body. -/
theorem takes_fetch :
    Meets (fetch documentId) service (fun _ reached => service.Takes documentId [] reached)
      (fun _ reached => service.Takes documentId [] reached) := by
  refine .bind (.get (.bind (.set _ (.bind (meets_planned ?_ ?_)))))
  · exact fun _ _ => .nothing rfl rfl
  · refine fun _ => .bind (.bind (.get ?_))
    split
    · exact .pure _ (.pure _ (.nothing rfl rfl))
    · exact .throw _ (.nothing rfl rfl)

/-- A batch that is accepted is applied, and one that is refused has no effect. -/
theorem takes_update {requests : List Request} (nonempty : requests ≠ []) :
    Meets (update documentId requests) service
      (fun _ reached => service.Takes documentId [requests] reached)
      (fun _ reached => service.Takes documentId [] reached) := by
  rw [update, if_neg (by simpa using nonempty)]
  refine .bind (.get (.bind (.set _ (.bind (meets_planned ?_ ?_)))))
  · exact fun _ _ => .nothing rfl rfl
  intro _
  dsimp only
  split
  · exact .throw _ (.nothing rfl rfl)
  refine .bind (.bind (.get ?_))
  split
  · rename_i document found
    refine .pure _ ?_
    split
    · exact .throw _ (.nothing rfl rfl)
    · rename_i final effects applies
      have there : service.body? documentId = some document.body := by
        change (service.find? documentId).map _ = _
        rw [show service.find? documentId = some document from found, Option.map_some]
      refine .modify _ ⟨rfl, ?_⟩
      rw [there]
      exact ⟨final, _, by rw [applyBatches, applies]; rfl, body?_setBody there⟩
  · exact .throw _ (.nothing rfl rfl)

end Service

/-! ## Calls as they are noted -/

/-- A call as it was noted: what was attempted, and its failure if it failed. -/
structure Note where
  attempt : Attempt
  failure : Option Failure

/-- The note of a call. -/
def Observed.note (call : Observed) : Note :=
  ⟨call.attempt, call.failure⟩

/-- The batch that was accepted, if the call is one that sent it. -/
def Note.accepted? : Note → Option (List Request)
  | ⟨.update _ requests, none⟩ => some requests
  | _ => none

/-- The batches that were accepted. -/
def accepted (notes : List Note) : List (List Request) :=
  notes.filterMap Note.accepted?

/-- The note of a document that was fetched. -/
def shown (documentId : String) : Note :=
  ⟨.fetch documentId, none⟩

/-- The note of a document that could not be fetched. -/
def unseen (documentId : String) (failure : Failure) : Note :=
  ⟨.fetch documentId, some failure⟩

/-- The note of a batch that was accepted. -/
def taken (documentId : String) (requests : List Request) : Note :=
  ⟨.update documentId requests, none⟩

/-- The note of a batch that was refused. -/
def refused (documentId : String) (requests : List Request) (failure : Failure) : Note :=
  ⟨.update documentId requests, some failure⟩

/-- What is noted when requests were accepted: nothing, if there were none to be sent. -/
def sentOnce (documentId : String) (requests : List Request) : List Note :=
  if requests.isEmpty then [] else [taken documentId requests]

theorem accepted_append (first second : List Note) :
    accepted (first ++ second) = accepted first ++ accepted second :=
  List.filterMap_append

theorem flatten_accepted_sentOnce (documentId : String) (requests : List Request) :
    (accepted (sentOnce documentId requests)).flatten = requests := by
  cases requests with
  | nil => rfl
  | cons request rest => exact List.append_nil _

/-- Calls were made between two states of a watched service, and the batches that were accepted have
made the body of a document what it is. -/
structure Watch.Makes (documentId : String) (notes : List Note) (before after : Watch) : Prop where
  calls : ∃ calls, after.calls = before.calls ++ calls ∧ calls.map Observed.note = notes
  takes : before.service.Takes documentId (accepted notes) after.service

namespace Watch

variable {documentId : String} {first second third : Watch} {early late : List Note}

theorem Makes.trans (makes : Makes documentId early first second)
    (further : Makes documentId late second third) : Makes documentId (early ++ late) first third := by
  rcases makes.calls with ⟨calls, same, isEarly⟩
  rcases further.calls with ⟨others, sameOthers, isLate⟩
  refine ⟨⟨calls ++ others, by rw [sameOthers, same, List.append_assoc], ?_⟩, ?_⟩
  · rw [List.map_append, isEarly, isLate]
  · rw [accepted_append]
    exact makes.takes.trans further.takes

theorem Makes.refl (documentId : String) (watch : Watch) : Makes documentId [] watch watch :=
  ⟨⟨[], (List.append_nil _).symm, rfl⟩, .nothing rfl rfl⟩

theorem meets_noted {α : Type} {attempt : Attempt} {operation : Call Service α} {watch : Watch}
    {returns : α → Service → Prop} {fails : Failure → Service → Prop}
    (meets : Meets operation watch.service returns fails) :
    Meets (observe attempt operation) watch
      (fun value reached => reached.calls = watch.calls ++ [⟨watch.service, attempt, none⟩] ∧
        returns value reached.service)
      (fun failure reached =>
        reached.calls = watch.calls ++ [⟨watch.service, attempt, some failure⟩] ∧
        fails failure reached.service) := by
  rw [Meets] at meets ⊢
  rw [observe, ExceptT.run_mk]
  split at meets <;> rename_i runs
  · rw [runs]
    exact ⟨rfl, meets⟩
  · rw [runs]
    exact ⟨rfl, meets⟩

variable (watch : Watch) (documentId : String)

theorem makes_fetch :
    Meets (remote.fetch documentId) watch
      (fun _ reached => watch.Makes documentId [shown documentId] reached)
      (fun failure reached => watch.Makes documentId [unseen documentId failure] reached) :=
  (meets_noted (watch.service.takes_fetch documentId)).mono
    (fun _ _ noted => ⟨⟨_, noted.1, rfl⟩, noted.2⟩) fun _ _ noted => ⟨⟨_, noted.1, rfl⟩, noted.2⟩

theorem makes_update {requests : List Request} (nonempty : requests ≠ []) :
    Meets (remote.update documentId requests) watch
      (fun _ reached => watch.Makes documentId [taken documentId requests] reached)
      (fun failure reached => watch.Makes documentId [refused documentId requests failure] reached) :=
  (meets_noted (watch.service.takes_update documentId nonempty)).mono
    (fun _ _ noted => ⟨⟨_, noted.1, rfl⟩, noted.2⟩) fun _ _ noted => ⟨⟨_, noted.1, rfl⟩, noted.2⟩

end Watch

end Docs

end DocBinder
