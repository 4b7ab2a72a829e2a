import DocBinder.Proofs.Steps
import DocBinder.Sync.Coordinator

/-!
# What the work on a document leaves alone

The work on a document calls the remote and adds to the log. Of the rest of a session it changes the
builder only, from which it takes its tokens; that a document was written is remembered after its work,
and only then. None of this depends on the remote.
-/

namespace DocBinder

open Docs

/-! ## Parts of steps -/

namespace Meets

open Sync

variable {σ α : Type} {session : Session σ} {outcome : Outcome}

theorem call {operation : Call σ α} {returns : α → Session σ → Prop}
    {fails : Failure → Session σ → Prop}
    (meets : Meets operation session.remote
      (fun value remote => returns value { session with remote := remote })
      (fun failure remote => fails failure { session with remote := remote })) :
    Meets (Step.call operation) session returns fails := by
  rw [Meets] at meets ⊢
  rw [Step.call, ExceptT.run_mk]
  split at meets <;> rename_i runs
  · rw [runs]
    exact meets
  · rw [runs]
    exact meets

theorem attempt {step : Step σ α} {returns : Except Failure α → Session σ → Prop}
    {fails : Failure → Session σ → Prop}
    (meets : Meets step session (fun value => returns (.ok value))
      (fun failure => returns (.error failure))) :
    Meets (Step.attempt step) session returns fails := by
  rw [Meets] at meets ⊢
  rw [Step.attempt, ExceptT.run_mk]
  split at meets <;> rename_i runs
  · rw [runs]
    exact meets
  · rw [runs]
    exact meets

theorem report (lines : List Log.Line) {returns : Unit → Session σ → Prop}
    {fails : Failure → Session σ → Prop}
    (holds : returns () { session with log := session.log ++ lines }) :
    Meets (Step.report lines) session returns fails :=
  .modify _ holds

/-- The work on a document as a step, which cannot fail. -/
theorem work {step : DocumentStep σ α} {returns : Except Failure α × Outcome → Session σ → Prop}
    {fails : Failure → Session σ → Prop}
    (meets : Meets step (session, outcome)
      (fun value reached => returns (.ok value, reached.2) reached.1)
      (fun failure reached => returns (.error failure, reached.2) reached.1)) :
    Meets (ExceptT.mk (m := StateM (Session σ)) fun session =>
      let (result, (session, reached)) := step.run (session, outcome)
      (.ok (result, reached), session)) session returns fails := by
  rw [Meets] at meets ⊢
  rw [ExceptT.run_mk]
  split at meets <;> rename_i runs
  · rw [runs]
    exact meets
  · rw [runs]
    exact meets

variable {fails : Failure → Session σ × Outcome → Prop}

theorem ofStep {step : Step σ α} {returns : α → Session σ × Outcome → Prop}
    (meets : Meets step session (fun value reached => returns value (reached, outcome))
      (fun failure reached => fails failure (reached, outcome))) :
    Meets (DocumentStep.ofStep step) (session, outcome) returns fails := by
  rw [Meets] at meets ⊢
  rw [DocumentStep.ofStep, ExceptT.run_mk]
  dsimp only
  split at meets <;> rename_i runs
  · rw [runs]
    exact meets
  · rw [runs]
    exact meets

variable {returns : Unit → Session σ × Outcome → Prop}

theorem reportDocument (lines : List Log.Line)
    (holds : returns () ({ session with log := session.log ++ lines }, outcome)) :
    Meets (DocumentStep.report lines) (session, outcome) returns fails :=
  .ofStep (.report lines holds)

theorem count (change : Stats → Stats)
    (holds : returns () (session, { outcome with stats := change outcome.stats })) :
    Meets (DocumentStep.count change) (session, outcome) returns fails :=
  .modify _ holds

theorem reach (phase : Phase)
    (holds : returns () (session, { outcome with phase := phase })) :
    Meets (DocumentStep.reach phase) (session, outcome) returns fails :=
  .modify _ holds

end Meets

namespace Sync

variable {σ : Type}

/-- A session differs from another one in the remote and the log only. -/
structure Session.Agrees (session other : Session σ) : Prop where
  builder : other.builder = session.builder
  state : other.state = session.state
  written : other.written = session.written

theorem Session.Agrees.trans {first second third : Session σ} (agrees : first.Agrees second)
    (further : second.Agrees third) : first.Agrees third :=
  ⟨further.builder.trans agrees.builder, further.state.trans agrees.state,
    further.written.trans agrees.written⟩

/-- The work on a document went on from a session and an outcome: it has changed nothing of the
session but the remote and the log, and the outcome is still that of the same document. -/
structure Continues (before after : Session σ × Outcome) : Prop
    extends before.1.Agrees after.1 where
  path : after.2.path = before.2.path
  title : after.2.title = before.2.title

theorem Continues.refl (state : Session σ × Outcome) : Continues state state :=
  ⟨⟨rfl, rfl, rfl⟩, rfl, rfl⟩

theorem Continues.trans {first second third : Session σ × Outcome} (continues : Continues first second)
    (further : Continues second third) : Continues first third :=
  ⟨continues.toAgrees.trans further.toAgrees, further.path.trans continues.path,
    further.title.trans continues.title⟩

/-- A relation to which all keep that the work on a document is made of: notes of what was done, and
fetches and batches of the remote, whether they fail or not. -/
structure Coordinator.Admits (coordinator : Coordinator σ)
    (relation : Session σ × Outcome → Session σ × Outcome → Prop) : Prop where
  refl : ∀ state, relation state state
  trans : ∀ {first second third}, relation first second → relation second third →
    relation first third
  log : ∀ session outcome log, relation (session, outcome) ({ session with log := log }, outcome)
  stats : ∀ session outcome stats,
    relation (session, outcome) (session, { outcome with stats := stats })
  phase : ∀ session outcome phase,
    relation (session, outcome) (session, { outcome with phase := phase })
  fetch : ∀ documentId session outcome, Meets (coordinator.remote.fetch documentId) session.remote
    (fun _ remote => relation (session, outcome) ({ session with remote := remote }, outcome))
    (fun _ remote => relation (session, outcome) ({ session with remote := remote }, outcome))
  update : ∀ documentId requests session outcome,
    Meets (coordinator.remote.update documentId requests) session.remote
      (fun _ remote => relation (session, outcome) ({ session with remote := remote }, outcome))
      (fun _ remote => relation (session, outcome) ({ session with remote := remote }, outcome))

/-- The work on a document only continues. -/
theorem Coordinator.admits_continues (coordinator : Coordinator σ) :
    coordinator.Admits Continues := by
  have calls {α : Type} (operation : Call σ α) (session : Session σ) (outcome : Outcome) :
      Meets operation session.remote
        (fun _ remote => Continues (session, outcome) ({ session with remote := remote }, outcome))
        (fun _ remote =>
          Continues (session, outcome) ({ session with remote := remote }, outcome)) := by
    rw [Meets]
    split <;> exact ⟨⟨rfl, rfl, rfl⟩, rfl, rfl⟩
  exact ⟨.refl, .trans, fun _ _ _ => ⟨⟨rfl, rfl, rfl⟩, rfl, rfl⟩,
    fun _ _ _ => ⟨⟨rfl, rfl, rfl⟩, rfl, rfl⟩, fun _ _ _ => ⟨⟨rfl, rfl, rfl⟩, rfl, rfl⟩,
    fun _ => calls _, fun _ _ => calls _⟩

/-- A step keeps to a relation, whether it fails or not. -/
def DocumentStep.Keeps {α : Type} (relation : Session σ × Outcome → Session σ × Outcome → Prop)
    (step : DocumentStep σ α) : Prop :=
  ∀ state, Meets step state (fun _ reached => relation state reached)
    (fun _ reached => relation state reached)

namespace DocumentStep.Keeps

variable {α β : Type} {relation : Session σ × Outcome → Session σ × Outcome → Prop}
  {coordinator : Coordinator σ} (admits : coordinator.Admits relation)

include admits

theorem pure (value : α) : Keeps relation (pure value : DocumentStep σ α) :=
  fun state => .pure value (admits.refl state)

theorem throw (failure : Failure) : Keeps relation (throw failure : DocumentStep σ α) :=
  fun state => .throw failure (admits.refl state)

theorem bind {first : DocumentStep σ β} {next : β → DocumentStep σ α}
    (begins : Keeps relation first) (follows : ∀ value, Keeps relation (next value)) :
    Keeps relation (first >>= next) := by
  intro state
  refine .bind ((begins state).mono ?_ fun _ _ keeps => keeps)
  intro value middle keeps
  exact (follows value middle).mono (fun _ _ further => admits.trans keeps further)
    fun _ _ further => admits.trans keeps further

theorem tryCatch {step : DocumentStep σ α} {handler : Failure → DocumentStep σ α}
    (begins : Keeps relation step) (follows : ∀ failure, Keeps relation (handler failure)) :
    Keeps relation (tryCatch step handler) := by
  intro state
  refine .tryCatch ((begins state).mono (fun _ _ keeps => keeps) ?_)
  intro failure middle keeps
  exact (follows failure middle).mono (fun _ _ further => admits.trans keeps further)
    fun _ _ further => admits.trans keeps further

theorem report (lines : List Log.Line) : Keeps relation (report lines : DocumentStep σ Unit) :=
  fun _ => .reportDocument lines (admits.log _ _ _)

theorem count (change : Stats → Stats) : Keeps relation (count change : DocumentStep σ Unit) :=
  fun _ => .count change (admits.stats _ _ _)

theorem reach (phase : Phase) : Keeps relation (reach phase : DocumentStep σ Unit) :=
  fun _ => .reach phase (admits.phase _ _ _)

variable (documentId : String)

theorem snapshot : Keeps relation (coordinator.snapshot documentId) :=
  bind admits (fun _ => .ofStep (.call (admits.fetch documentId _ _))) fun _ => pure admits _

theorem submit (requests : List Request) :
    Keeps relation (coordinator.submit documentId requests) := by
  cases requests with
  | nil => exact pure admits ()
  | cons request rest =>
      exact bind admits (fun _ => .ofStep (.call (admits.update documentId _ _ _)))
        fun _ => count admits _

theorem submitChunk (chunk : List Replacement) :
    Keeps relation (coordinator.submitChunk documentId chunk) := by
  refine bind admits (tryCatch admits (bind admits (submit admits documentId _)
    fun _ => count admits _) ?_) fun _ => count admits _
  intro failure
  split
  · exact throw admits failure
  · exact bind admits (report admits _) fun _ => bind admits (submit admits documentId _)
      fun _ => count admits _

theorem submitChunks (list : List (List Replacement)) :
    Keeps relation (coordinator.submitChunks documentId list) := by
  induction list with
  | nil => exact pure admits ()
  | cons chunk rest step => exact bind admits (submitChunk admits documentId chunk) fun _ => step

theorem format (compiled : Compiled) (start : Nat) :
    Keeps relation (coordinator.format documentId compiled start) := by
  refine bind admits (snapshot admits documentId) fun shown => bind admits (report admits _)
    fun _ => bind admits (report admits _) fun _ => ?_
  split
  · exact throw admits _
  · exact bind admits (submit admits documentId _) fun _ => bind admits (count admits _)
      fun _ => reach admits _

theorem writePhases (document : SourceDocument) (built : Placeholder.Built) :
    Keeps relation (coordinator.writePhases document documentId built) := by
  refine bind admits ?_ fun compiled => bind admits (count admits _) fun _ => bind admits ?_
    fun scope => bind admits ?_ fun _ => bind admits (format admits documentId compiled _) fun _ =>
    bind admits (snapshot admits documentId) fun shown => bind admits (report admits _) fun _ =>
    bind admits ?_ fun _ => bind admits (reach admits _) fun _ => reach admits _
  · exact fun _ => .ofStep (.bind (.report _ (.pure _ (admits.log _ _ _))))
  · exact bind admits (snapshot admits documentId) fun before => bind admits (report admits _)
      fun _ => bind admits (submit admits documentId _) fun _ => bind admits (reach admits _)
      fun _ => pure admits _
  · exact bind admits (snapshot admits documentId) fun found => bind admits (report admits _)
      fun _ => bind admits (report admits _) fun _ => bind admits (submit admits documentId _)
      fun _ => bind admits (count admits _) fun _ => reach admits _
  · exact bind admits (report admits _) fun _ => bind admits (count admits _) fun _ =>
      submitChunks admits documentId _

end DocumentStep.Keeps

/-! ## One document -/

namespace Coordinator

/-- What the builder of tokens makes of a document. -/
def build (coordinator : Coordinator σ) (document : SourceDocument)
    (builder : Placeholder.BuilderState) : Except Failure Placeholder.Built :=
  (Placeholder.build coordinator.setup document.markdown document.directory
    { builder with log := [] }).1

/-- The builder of tokens after a document. -/
def builderAfter (coordinator : Coordinator σ) (document : SourceDocument)
    (builder : Placeholder.BuilderState) : Placeholder.BuilderState :=
  (Placeholder.build coordinator.setup document.markdown document.directory
    { builder with log := [] }).2

/-- Building tokens for a document changes the builder and the log. -/
theorem meets_buildTokens {coordinator : Coordinator σ} {document : SourceDocument}
    {session : Session σ} {returns : Placeholder.Built → Session σ → Prop}
    {fails : Failure → Session σ → Prop}
    (gives : ∀ built, coordinator.build document session.builder = .ok built →
      returns built { session with
        builder := coordinator.builderAfter document session.builder
        log := session.log ++ (coordinator.builderAfter document session.builder).log })
    (refuses : ∀ failure, coordinator.build document session.builder = .error failure →
      fails failure { session with
        builder := coordinator.builderAfter document session.builder
        log := session.log ++ (coordinator.builderAfter document session.builder).log }) :
    Meets (coordinator.buildTokens document) session returns fails := by
  cases result : coordinator.build document session.builder with
  | ok built =>
      refine .of_run ?_ (gives built result)
      rw [buildTokens, ExceptT.run_mk, builderAfter, ← result]
      rfl
  | error failure =>
      refine .of_run_error ?_ (refuses failure result)
      rw [buildTokens, ExceptT.run_mk, builderAfter, ← result]
      rfl

variable (coordinator : Coordinator σ) (document : SourceDocument) (documentId : String)

/-- Writing a document changes nothing but the remote, the log and the builder. It fails only with
what is no failure of the remote, or with one of the credentials. -/
theorem meets_writeDocument_agrees (session : Session σ) :
    Meets (coordinator.writeDocument document documentId) session
      (fun outcome reached => Session.Agrees
          { session with builder := coordinator.builderAfter document session.builder } reached ∧
        outcome.path = document.path ∧ outcome.title = document.title)
      (fun failure reached => Session.Agrees
          { session with builder := coordinator.builderAfter document session.builder } reached ∧
        (failure.cause.isDocs && !failure.cause.isInvalidCredentials) = false) := by
  refine .bind (.attempt (meets_buildTokens ?_ ?_))
  · intro built _
    refine .bind (.work ((DocumentStep.Keeps.writePhases coordinator.admits_continues documentId
      document built _).mono ?_ ?_))
    · rintro _ ⟨reached, outcome⟩ continues
      exact .pure _ ⟨⟨continues.builder, continues.state, continues.written⟩, continues.path,
        continues.title⟩
    · rintro failure ⟨reached, outcome⟩ continues
      dsimp only
      split
      · exact .bind (.report _ (.pure _
          ⟨⟨continues.builder, continues.state, continues.written⟩, continues.path,
            continues.title⟩))
      · rename_i aborts
        exact .throw _ ⟨⟨continues.builder, continues.state, continues.written⟩,
          Bool.eq_false_iff.mpr aborts⟩
  · intro failure _
    dsimp only
    split
    · rename_i invalid
      exact .throw _ ⟨⟨rfl, rfl, rfl⟩, by rw [invalid]; exact Bool.and_false _⟩
    · exact .bind (.report _ (.pure _ ⟨⟨rfl, rfl, rfl⟩, rfl, rfl⟩))

/-- What a session remembers of a document with an outcome. -/
def remember (documentId : String) (outcome : Outcome) (session : Session σ) : Session σ :=
  if outcome.succeeded then
    { session with
      state := session.state.map fun state =>
        state.recordSynced document.path document.hash documentId coordinator.now
      written := session.written ++ [document.path] }
  else session

variable {coordinator} {documentId} in
theorem meets_recordDocument {session : Session σ} {returns : Outcome → Session σ → Prop}
    {fails : Failure → Session σ → Prop}
    (meets : Meets (coordinator.writeDocument document documentId) session
      (fun outcome reached => ∀ status, (status = some .failed ↔ outcome.succeeded = false) →
        returns { outcome with status := status }
          (coordinator.remember document documentId outcome reached)) fails) :
    Meets (coordinator.recordDocument document documentId) session returns fails := by
  refine .bind (.bind (.get (.pure _ (.bind (meets.mono ?_ fun _ _ fails => fails)))))
  intro outcome reached holds
  dsimp only
  rw [remember] at holds
  split at holds
  · rename_i succeeded
    rw [if_pos succeeded]
    refine .bind (.modify _ (.pure _ (holds _ ?_)))
    split <;> simp [succeeded]
  · rename_i failed
    rw [if_neg failed]
    exact .pure _ (holds _ (by simp [failed]))

section Remember

variable (outcome : Outcome)

theorem remember_remote (session : Session σ) :
    (coordinator.remember document documentId outcome session).remote = session.remote := by
  rw [remember]
  split <;> rfl

theorem remember_builder (session : Session σ) :
    (coordinator.remember document documentId outcome session).builder = session.builder := by
  rw [remember]
  split <;> rfl

theorem remember_state {session other : Session σ} (same : session.state = other.state) :
    (coordinator.remember document documentId outcome session).state =
      (coordinator.remember document documentId outcome other).state := by
  rw [remember, remember]
  split
  · rw [same]
  · exact same

theorem remember_written {session other : Session σ} (same : session.written = other.written) :
    (coordinator.remember document documentId outcome session).written =
      (coordinator.remember document documentId outcome other).written := by
  rw [remember, remember]
  split
  · rw [same]
  · exact same

end Remember

end Coordinator

/-- What a document of a run changes of a session besides the remote and the log: the builder, and
what is remembered if it went through all phases. -/
structure Recorded (coordinator : Coordinator σ) (documentId : String) (document : SourceDocument)
    (before : Session σ) (outcome : Outcome) (after : Session σ) : Prop where
  path : outcome.path = document.path
  title : outcome.title = document.title
  status : outcome.status = some .failed ↔ outcome.succeeded = false
  builds : after.builder = coordinator.builderAfter document before.builder
  state : after.state = (coordinator.remember document documentId outcome before).state
  written : after.written = (coordinator.remember document documentId outcome before).written

/-- A document at which a run is given up changes the builder only. -/
theorem Coordinator.meets_recordDocument_recorded (coordinator : Coordinator σ)
    (document : SourceDocument) (documentId : String) (session : Session σ) :
    Meets (coordinator.recordDocument document documentId) session
      (fun outcome reached => Recorded coordinator documentId document session outcome reached)
      (fun failure reached => Session.Agrees
          { session with builder := coordinator.builderAfter document session.builder } reached ∧
        (failure.cause.isDocs && !failure.cause.isInvalidCredentials) = false) := by
  refine meets_recordDocument document
    ((coordinator.meets_writeDocument_agrees document documentId session).mono ?_
      fun _ _ agrees => agrees)
  rintro outcome reached ⟨agrees, path, title⟩ status isFailed
  refine ⟨path, title, isFailed, ?_, ?_, ?_⟩
  · rw [remember_builder]
    exact agrees.builder
  · exact coordinator.remember_state document documentId outcome agrees.state
  · exact coordinator.remember_written document documentId outcome agrees.written

/-- What fetches and batches keep of the remote, a run keeps: it makes no other calls. -/
theorem Coordinator.meets_writeAll_remote {coordinator : Coordinator σ} (holds : σ → Prop)
    (fetches : ∀ documentId state, holds state →
      Meets (coordinator.remote.fetch documentId) state (fun _ => holds) (fun _ => holds))
    (updates : ∀ documentId requests state, holds state →
      Meets (coordinator.remote.update documentId requests) state (fun _ => holds) (fun _ => holds))
    (documents : List SourceDocument) (documentId : String) {session : Session σ}
    (begins : holds session.remote) :
    Meets (coordinator.writeAll documents documentId) session
      (fun _ reached => holds reached.remote) (fun _ reached => holds reached.remote) := by
  have admits : coordinator.Admits fun before after =>
      holds before.1.remote → holds after.1.remote := by
    have calls {α : Type} {operation : Call σ α}
        (keeps : ∀ state, holds state → Meets operation state (fun _ => holds) (fun _ => holds))
        (state : σ) : Meets operation state (fun _ remote => holds state → holds remote)
          (fun _ remote => holds state → holds remote) := by
      by_cases here : holds state
      · exact (keeps state here).mono (fun _ _ kept _ => kept) fun _ _ kept _ => kept
      · rw [Meets]
        split <;> exact fun there => absurd there here
    exact ⟨fun _ kept => kept, fun first second kept => second (first kept), fun _ _ _ kept => kept,
      fun _ _ _ kept => kept, fun _ _ _ kept => kept,
      fun documentId session _ => calls (fetches documentId) session.remote,
      fun documentId requests session _ => calls (updates documentId requests) session.remote⟩
  have writes (document : SourceDocument) (session : Session σ) (begins : holds session.remote) :
      Meets (coordinator.writeDocument document documentId) session
        (fun _ reached => holds reached.remote) (fun _ reached => holds reached.remote) := by
    refine .bind (.attempt (meets_buildTokens ?_ ?_))
    · intro built _
      refine .bind (.work ((DocumentStep.Keeps.writePhases admits documentId document built
        _).mono ?_ ?_))
      · exact fun _ _ kept => .pure _ (kept begins)
      · intro failure reached kept
        dsimp only
        split
        · exact .bind (.report _ (.pure _ (kept begins)))
        · exact .throw _ (kept begins)
    · intro failure _
      dsimp only
      split
      · exact .throw _ begins
      · exact .bind (.report _ (.pure _ begins))
  rw [writeAll]
  generalize (⟨some documentId, []⟩ : Run) = run
  induction documents generalizing run session with
  | nil => exact .bind (.report _ (.pure _ begins))
  | cons document rest step =>
      refine .bind (meets_recordDocument document ((writes document session begins).mono ?_
        fun _ _ kept => kept))
      intro outcome reached kept status _
      refine step ?_ _
      rw [remember_remote]
      exact kept

end Sync

end DocBinder
