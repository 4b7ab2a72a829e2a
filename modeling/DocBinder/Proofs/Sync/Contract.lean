import DocBinder.Proofs.Buffer.View
import DocBinder.Proofs.Sync.Frame
import Mathlib.Logic.Function.Basic

/-!
# What a run relies on

A run is written over any remote. What it relies on is little: a document that is fetched shows
the body it has, and a batch that fits the body changes it as its requests say, unless the call
fails, which leaves every body as it is. Nothing is assumed of a batch that does not fit. Hence
whatever is shown from this contract alone needs each batch of a run to fit.
-/

namespace DocBinder

open Docs

/-- What is relied on of a remote. `Leads` holds between a state and those that calls make of it,
and `Troubled` says that a call on the way failed. -/
structure Docs.Remote.Contract {σ : Type} (remote : Remote σ) where
  body? : σ → String → Option Buffer
  Leads : σ → σ → Prop
  Troubled : Failure → σ → σ → Prop
  refl : ∀ state, Leads state state
  trans : ∀ {first second third}, Leads first second → Leads second third → Leads first third
  before : ∀ {failure first second third}, Leads first second → Troubled failure second third →
    Troubled failure first third
  after : ∀ {failure first second third}, Troubled failure first second → Leads second third →
    Troubled failure first third
  fetches : ∀ {state documentId body}, body? state documentId = some body →
    Meets (remote.fetch documentId) state
      (fun value reached => Leads state reached ∧ body? reached = body? state ∧
        ∃ title, value = body.toDocument documentId title)
      (fun failure reached => Leads state reached ∧ body? reached = body? state ∧
        Troubled failure state reached)
  updates : ∀ {state documentId body requests next effects},
    body? state documentId = some body → requests ≠ [] →
    applyBatch body requests = .ok (next, effects) →
    Meets (remote.update documentId requests) state
      (fun _ reached => Leads state reached ∧
        body? reached = Function.update (body? state) documentId (some next))
      (fun failure reached => Leads state reached ∧ body? reached = body? state ∧
        Troubled failure state reached)
  creates : ∀ state title,
    Meets (remote.create title) state
      (fun value reached => Leads state reached ∧ ∃ documentId title,
        body? reached = Function.update (body? state) documentId (some (Buffer.ofText [])) ∧
        value = (Buffer.ofText []).toDocument documentId title)
      (fun failure reached => Leads state reached ∧ body? reached = body? state ∧
        Troubled failure state reached)
  renews : ∀ operation ∈ [remote.clearTokens, remote.authenticate, remote.reset], ∀ state,
    Meets operation state
      (fun _ reached => Leads state reached ∧ body? reached = body? state)
      (fun failure reached => Leads state reached ∧ body? reached = body? state ∧
        Troubled failure state reached)

/-! ## Sessions of a run -/

namespace Sync

variable {σ : Type} {coordinator : Coordinator σ} (contract : coordinator.remote.Contract)
  (documentId : String)

/-- A session came of another one, its document holds a buffer, and no other body has changed. -/
structure Holds (origin : Session σ) (buffer : Buffer) (session : Session σ) : Prop where
  leads : contract.Leads origin.remote session.remote
  bodies : contract.body? session.remote =
    Function.update (contract.body? origin.remote) documentId (some buffer)

variable {contract} {documentId} {origin session : Session σ} {buffer : Buffer}

theorem Holds.refl (body : contract.body? session.remote documentId = some buffer) :
    Holds contract documentId session buffer session :=
  ⟨contract.refl _, by rw [← body, Function.update_eq_self]⟩

theorem Holds.body (holds : Holds contract documentId origin buffer session) :
    contract.body? session.remote documentId = some buffer := by
  rw [holds.bodies, Function.update_self]

theorem Holds.log (holds : Holds contract documentId origin buffer session)
    (log : List Log.Line) : Holds contract documentId origin buffer { session with log := log } :=
  ⟨holds.leads, holds.bodies⟩

theorem Holds.trans {next : Session σ} {following : Buffer}
    (holds : Holds contract documentId origin buffer session)
    (further : Holds contract documentId session following next) :
    Holds contract documentId origin following next where
  leads := contract.trans holds.leads further.leads
  bodies := by rw [further.bodies, holds.bodies, Function.update_idem]

/-- A call of the remote that changes no body. -/
theorem Holds.unchanged {remote : σ} (holds : Holds contract documentId origin buffer session)
    (leads : contract.Leads session.remote remote)
    (same : contract.body? remote = contract.body? session.remote) :
    Holds contract documentId origin buffer { session with remote := remote } :=
  ⟨contract.trans holds.leads leads, same.trans holds.bodies⟩

variable (contract) (documentId) in
/-- A session came of another one in which a call failed, and its document holds a buffer. -/
structure Fails (origin : Session σ) (buffer : Buffer) (failure : Failure) (session : Session σ) :
    Prop where
  holds : Holds contract documentId origin buffer session
  troubled : contract.Troubled failure origin.remote session.remote

theorem Holds.fails {next : Session σ} {following : Buffer} {failure : Failure}
    (holds : Holds contract documentId origin buffer session)
    (further : Fails contract documentId session following failure next) :
    Fails contract documentId origin following failure next :=
  ⟨holds.trans further.holds, contract.before holds.leads further.troubled⟩

namespace Coordinator

variable {outcome : Outcome} (holds : Holds contract documentId origin buffer session)

include holds

/-- Fetching the document shows its buffer. -/
theorem meets_snapshot :
    Meets (coordinator.snapshot documentId) (session, outcome)
      (fun snapshot reached => Holds contract documentId origin buffer reached.1 ∧
        reached.2 = outcome ∧ ∃ title, snapshot = buffer.view documentId title)
      (fun failure reached => Fails contract documentId origin buffer failure reached.1) := by
  refine .bind (.ofStep (.call ((contract.fetches holds.body).mono ?_ ?_)))
  · rintro value remote ⟨leads, same, title, rfl⟩
    exact .pure _ ⟨holds.unchanged leads same, rfl, title, rfl⟩
  · rintro failure remote ⟨leads, same, troubled⟩
    exact ⟨holds.unchanged leads same, contract.before holds.leads troubled⟩

/-- A batch that fits is sent, and changes the buffer as its requests say. -/
theorem meets_submit {requests : List Request} {next : Buffer} {effects : Effects}
    (applies : applyBatch buffer requests = .ok (next, effects)) :
    Meets (coordinator.submit documentId requests) (session, outcome)
      (fun _ reached => Holds contract documentId origin next reached.1 ∧ ∃ sent,
        reached.2 = { outcome with stats := { outcome.stats with requests := sent } })
      (fun failure reached => Fails contract documentId origin buffer failure reached.1 ∧
        reached.2 = outcome) := by
  cases requests with
  | nil =>
      cases applies
      exact .pure _ ⟨holds, _, rfl⟩
  | cons request rest =>
      refine .bind (.ofStep (.call ((contract.updates holds.body (List.cons_ne_nil _ _) applies).mono
        ?_ ?_)))
      · rintro _ remote ⟨leads, bodies⟩
        refine .count _ ⟨⟨contract.trans holds.leads leads, ?_⟩, _, rfl⟩
        rw [bodies, holds.bodies, Function.update_idem]
      · rintro failure remote ⟨leads, same, troubled⟩
        exact ⟨⟨holds.unchanged leads same, contract.before holds.leads troubled⟩, rfl⟩

end Coordinator

end Sync

end DocBinder
