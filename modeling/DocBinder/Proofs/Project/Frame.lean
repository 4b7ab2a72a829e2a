import DocBinder.Project.Synchronize
import DocBinder.Proofs.Sync.Prepare
import DocBinder.Proofs.Sync.Service

/-!
# What a run leaves alone

Telling the user something, adding to the log and previewing change neither a file nor the remote.
A run changes files only where it stores its state.
-/

namespace DocBinder

open Project

/-- What a workspace becomes after a session. -/
def Project.Workspace.after {σ : Type} (workspace : Workspace σ) (session : Sync.Session σ) :
    Workspace σ :=
  { workspace with
    remote := session.remote
    builder := session.builder
    log := workspace.log ++ session.log }

/-! ## Parts of runs -/

namespace Meets

variable {σ α : Type} {workspace : Workspace σ}

theorem inSession {state : Sync.State} {step : Sync.Step σ α}
    {returns : Except Failure α × Sync.Session σ → Workspace σ → Prop}
    {fails : Failure → Workspace σ → Prop}
    (meets : Meets step (Runner.session workspace.remote workspace.builder state)
      (fun value session => returns (.ok value, session) (workspace.after session))
      (fun failure session => returns (.error failure, session) (workspace.after session))) :
    Meets (Runner.inSession state step) workspace returns fails := by
  rw [Meets] at meets ⊢
  rw [Runner.inSession, ExceptT.run_mk]
  split at meets <;> rename_i runs
  · rw [runs]
    exact meets
  · rw [runs]
    exact meets

theorem attemptRun {step : Runner.Step σ α} {returns : Except Failure α → Workspace σ → Prop}
    {fails : Failure → Workspace σ → Prop}
    (meets : Meets step workspace (fun value => returns (.ok value))
      (fun failure => returns (.error failure))) :
    Meets (Runner.attempt step) workspace returns fails := by
  rw [Meets] at meets ⊢
  rw [Runner.attempt, ExceptT.run_mk]
  split at meets <;> rename_i runs
  · rw [runs]
    exact meets
  · rw [runs]
    exact meets

end Meets

namespace Project

variable {σ : Type}

/-- A workspace has the files and the remote of another one, and its builder begins sessions in the
same way. -/
structure Workspace.Agrees (before after : Workspace σ) : Prop where
  files : after.files = before.files
  remote : after.remote = before.remote
  renewed : after.builder.renewed = before.builder.renewed

theorem Workspace.Agrees.refl (workspace : Workspace σ) : workspace.Agrees workspace :=
  ⟨rfl, rfl, rfl⟩

theorem Workspace.Agrees.trans {first second third : Workspace σ} (agrees : first.Agrees second)
    (further : second.Agrees third) : first.Agrees third :=
  ⟨further.files.trans agrees.files, further.remote.trans agrees.remote,
    further.renewed.trans agrees.renewed⟩

/-- A step changes no file and not the remote, whether it fails or not. -/
def Runner.Step.Keeps {α : Type} (step : Step σ α) : Prop :=
  ∀ workspace, Meets step workspace (fun _ reached => workspace.Agrees reached)
    (fun _ reached => workspace.Agrees reached)

namespace Runner.Step.Keeps

variable {α β : Type}

theorem pure (value : α) : Keeps (pure value : Step σ α) :=
  fun workspace => .pure value (.refl workspace)

theorem lift (result : Except Failure α) : Keeps (ExceptT.mk (Pure.pure result) : Step σ α) :=
  fun workspace => .lift (fun _ _ => .refl workspace) fun _ _ => .refl workspace

theorem bind {first : Step σ β} {next : β → Step σ α} (begins : Keeps first)
    (follows : ∀ value, Keeps (next value)) : Keeps (first >>= next) := by
  intro workspace
  refine .bind ((begins workspace).mono ?_ fun _ _ agrees => agrees)
  intro value middle agrees
  exact (follows value middle).mono (fun _ _ further => agrees.trans further)
    fun _ _ further => agrees.trans further

theorem get : Keeps (get : Step σ (Workspace σ)) :=
  fun workspace => .get (.refl workspace)

theorem report (lines : List Log.Line) : Keeps (report lines : Step σ Unit) :=
  fun _ => .modify _ ⟨rfl, rfl, rfl⟩

theorem note (message : String) : Keeps (note message : Step σ Unit) :=
  report _

variable (runner : Runner σ)

theorem tell (notices : List Notice) : Keeps (runner.tell notices) := by
  induction notices with
  | nil => exact pure ()
  | cons notice rest step =>
      refine bind (lift _) fun text => bind ?_ fun _ => step
      exact fun _ => .modify _ ⟨rfl, rfl, rfl⟩

end Runner.Step.Keeps

/-! ## Previewing -/

/-- A session has the remote and the builder of another one. -/
structure SameRemote (before after : Sync.Session σ) : Prop where
  remote : after.remote = before.remote
  builder : after.builder = before.builder

theorem meets_preview (coordinator : Sync.Coordinator σ) (document : Sync.SourceDocument)
    (session : Sync.Session σ) :
    Meets (coordinator.preview document) session
      (fun _ reached => SameRemote session reached) (fun _ reached => SameRemote session reached) := by
  rw [Sync.Coordinator.preview]
  refine .bind (.report _ ?_)
  split
  · exact .throw _ ⟨rfl, rfl⟩
  · exact .bind (.bind (.report _ (.pure _ (.pure _ ⟨rfl, rfl⟩))))

theorem meets_previews (coordinator : Sync.Coordinator σ) (documents : List Sync.SourceDocument)
    (session : Sync.Session σ) :
    Meets (documents.mapM coordinator.preview) session
      (fun _ reached => SameRemote session reached) (fun _ reached => SameRemote session reached) := by
  induction documents generalizing session with
  | nil => exact .pure _ ⟨rfl, rfl⟩
  | cons document rest step =>
      rw [List.mapM_cons]
      refine .bind ((meets_preview coordinator document session).mono ?_ fun _ _ same => same)
      intro preview middle same
      refine .bind ((step middle).mono ?_ ?_)
      · intro previews reached further
        exact .pure _ ⟨further.remote.trans same.remote, further.builder.trans same.builder⟩
      · intro failure reached further
        exact ⟨further.remote.trans same.remote, further.builder.trans same.builder⟩

theorem keeps_preview (runner : Runner σ) (config : Config) (state : Sync.State)
    (documents : List Sync.SourceDocument) :
    (runner.preview config state documents).Keeps := by
  refine .bind (.note _) fun _ => .bind .get fun workspace => .bind ?_ fun shown =>
    .bind (.lift _) fun previews => .bind (.tell runner _) fun _ => .pure _
  intro workspace
  have agrees (session : Sync.Session σ)
      (same : SameRemote (Runner.session workspace.remote workspace.builder state) session) :
      workspace.Agrees (workspace.after session) :=
    ⟨rfl, same.remote, by rw [Workspace.after, same.builder]; rfl⟩
  exact .inSession ((meets_previews _ documents _).mono (fun _ _ same => agrees _ same)
    fun _ _ same => agrees _ same)

/-! ## Preparing -/

open Docs

/-- The service has the documents of another one. -/
def SameDocuments (before after : Sync.Session Service) : Prop :=
  after.remote.documents = before.remote.documents

section Prepare

variable {coordinator : Sync.Coordinator Service} (serves : coordinator.remote = Service.remote)
  (session : Sync.Session Service)

include serves

theorem meets_fetch_documents (documentId : String) :
    Meets (Sync.Step.call (coordinator.remote.fetch documentId)) session
      (fun _ reached => SameDocuments session reached)
      (fun _ reached => SameDocuments session reached) := by
  rw [serves]
  refine .call (.bind (.get (.bind (.set _ (.bind (Service.meets_planned ?_ ?_))))))
  · exact fun _ _ => rfl
  · intro _
    refine .bind (.bind (.get ?_))
    split
    · exact .pure _ (.pure _ rfl)
    · exact .throw _ rfl

/-- A document that is made holds nothing but its final line feed. -/
theorem meets_create_documents (title : String) :
    Meets (Sync.Step.call (coordinator.remote.create title)) session
      (fun value _ => ∃ documentId, value = (Buffer.ofText []).toDocument documentId title)
      (fun _ reached => SameDocuments session reached) := by
  rw [serves]
  refine .call (.bind (.get (.bind (.set _ (.bind (Service.meets_planned ?_ ?_))))))
  · exact fun _ _ => rfl
  · intro _
    exact .bind (.modify _ (.pure _ ⟨_, rfl⟩))

theorem meets_update_documents (documentId : String) (requests : List Request) :
    Meets (Sync.Step.call (coordinator.remote.update documentId requests)) session
      (fun _ _ => True) (fun _ reached => SameDocuments session reached) := by
  rw [serves]
  refine .call ?_
  change Meets (Service.update documentId requests) _ _ _
  rw [Service.update]
  split
  · exact .pure _ trivial
  · refine .bind (.get (.bind (.set _ (.bind (Service.meets_planned ?_ ?_)))))
    · exact fun _ _ => rfl
    · intro _
      dsimp only
      split
      · exact .throw _ rfl
      · refine .bind (.bind (.get ?_))
        split
        · refine .pure _ ?_
          split
          · exact .throw _ rfl
          · exact .modify _ trivial
        · exact .throw _ rfl

theorem meets_reauthenticate_documents :
    Meets coordinator.reauthenticate session (fun _ reached => SameDocuments session reached)
      (fun _ reached => SameDocuments session reached) := by
  rw [Sync.Coordinator.reauthenticate, serves]
  refine .bind (.call (.modify _ ?_))
  refine .bind (.call (.bind (.modify _ (.bind (.get ?_)))))
  split
  · exact .throw _ rfl
  · exact .pure _ (.call (.modify _ rfl))

theorem meets_findKnown_documents (known : Option String) :
    Meets (coordinator.findKnown known) session (fun _ reached => SameDocuments session reached)
      (fun _ reached => SameDocuments session reached) := by
  rw [Sync.Coordinator.findKnown]
  split
  · refine .bind (.bind (.attempt ((meets_fetch_documents serves session _).mono ?_ ?_)))
    · exact fun _ _ same => .pure _ (.pure _ same)
    · intro failure reached same
      dsimp only
      split
      · exact .bind (.report _ (.pure _ (.pure _ same)))
      · exact .throw _ same
  · exact .pure _ rfl

/-- A document that was made needs no clearing. -/
theorem meets_makeMissing_documents (title : String) (found : Option (String × Value)) :
    Meets (coordinator.makeMissing title found) session
      (fun made reached => SameDocuments session reached ∨
        (Snapshot.ofDocument made.2).endIndex ≤ 2)
      (fun _ reached => SameDocuments session reached) := by
  cases found with
  | some found => exact .pure _ (.inl rfl)
  | none =>
      refine .bind ((meets_create_documents serves session title).mono ?_ fun _ _ same => same)
      rintro document reached ⟨documentId, rfl⟩
      refine .pure _ (.inr ?_)
      exact Nat.le_of_eq (Buffer.endIndex_view (Buffer.wellFormed_ofText []) documentId title)

theorem meets_clear_documents (documentId : String) (document : Value) {origin : Sync.Session Service}
    (same : SameDocuments origin session ∨ (Snapshot.ofDocument document).endIndex ≤ 2) :
    Meets (coordinator.clear documentId document) session (fun _ _ => True)
      (fun _ reached => SameDocuments origin reached) := by
  rw [Sync.Coordinator.clear]
  split
  · rename_i long
    refine .bind (.report _ (.bind ((meets_update_documents serves _ documentId _).mono ?_ ?_)))
    · exact fun _ _ _ => .pure _ trivial
    · exact fun _ _ further => further.trans (same.resolve_right (Nat.not_le.mpr long))
  · exact .pure _ trivial

/-- A preparation clears a document with its last call, so that one which fails has changed no
document. -/
theorem meets_prepareOnce_documents (known : Option String) (title : String) :
    Meets (coordinator.prepareOnce known title) session (fun _ _ => True)
      (fun _ reached => SameDocuments session reached) := by
  rw [Sync.Coordinator.prepareOnce_eq]
  refine .bind ((meets_findKnown_documents serves session known).mono ?_ fun _ _ same => same)
  intro found middle same
  refine .bind ((meets_makeMissing_documents serves middle title found).mono ?_ ?_)
  · rintro ⟨documentId, document⟩ reached made
    exact meets_clear_documents serves reached documentId document
      (made.imp_left fun further => further.trans same)
  · exact fun _ _ further => further.trans same

theorem meets_prepare_documents (known : Option String) (title : String) :
    Meets (coordinator.prepare known title) session (fun _ _ => True)
      (fun _ reached => SameDocuments session reached) := by
  refine .tryCatch ((meets_prepareOnce_documents serves session known title).mono
    (fun _ _ _ => trivial) ?_)
  intro failure middle same
  split
  · refine .bind (.report _ (.bind ((meets_reauthenticate_documents serves _).mono ?_ ?_)))
    · intro _ renewed further
      refine (meets_prepareOnce_documents serves renewed known title).mono (fun _ _ _ => trivial) ?_
      exact fun _ _ last => last.trans (further.trans same)
    · exact fun _ _ further => further.trans same
  · exact .throw _ same

end Prepare

end Project

end DocBinder
