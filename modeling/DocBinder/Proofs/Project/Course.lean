import DocBinder.Proofs.Project.Frame
import Mathlib.Data.Option.Basic

/-!
# The course of a run

A run that is to write prepares its document, writes to it, stores what was written, and tells how it
went. Every other run changes no file and no document of the service. A run succeeds only when it has
written all of its documents, or when there was nothing to write.
-/

namespace DocBinder

open Project

namespace Project

open Docs
open Sync (Session SourceDocument State)

namespace Runner

variable {σ : Type}

/-- What a run has found when it begins to write: its configuration, the stored state, the documents
that are selected, and the document that was prepared for them with the session after that. -/
structure Beginning (σ : Type) where
  config : Config
  state : State
  documents : List SourceDocument
  documentId : String
  prepared : Session σ

/-- A run is to write: it is told nothing contradictory, reads its files, finds documents of which one
has changed unless it is forced, and is no preview. -/
structure Intends (runner : Runner σ) (order : Order) (workspace : Workspace σ) (config : Config)
    (state : State) (documents : List SourceDocument) : Prop where
  consistent : (given order.selection.file).isSome → (given order.selection.directory).isNone
  configured : workspace.files.contains runner.configPath = true
  loadsConfig : Config.load workspace.files runner.configPath = .ok config
  loadsState : StateFile.load workspace.files runner.statePath = .ok state
  selects : (selectDocuments workspace.files config order.selection).1 = .ok documents
  nonempty : documents ≠ []
  needed : changed state documents ≠ [] ∨ order.isForced = true
  writes : order.isPreview = false

/-- A run gets to writing: it is to write, and its document was prepared. -/
structure Begins (runner : Runner σ) (order : Order) (workspace : Workspace σ)
    (beginning : Beginning σ) : Prop extends
    Intends runner order workspace beginning.config beginning.state beginning.documents where
  prepares : ((runner.coordinator beginning.config workspace.files).prepare
      beginning.state.rootId beginning.config.title).run
        (session workspace.remote workspace.builder beginning.state) =
    (.ok beginning.documentId, beginning.prepared)

theorem Begins.unique {runner : Runner σ} {order : Order} {workspace : Workspace σ}
    {first second : Beginning σ} (begins : runner.Begins order workspace first)
    (also : runner.Begins order workspace second) : first = second := by
  rcases first with ⟨config, state, documents, documentId, prepared⟩
  rcases second with ⟨otherConfig, otherState, otherDocuments, otherId, otherPrepared⟩
  cases begins.loadsConfig.symm.trans also.loadsConfig
  cases begins.loadsState.symm.trans also.loadsState
  cases begins.selects.symm.trans also.selects
  have samePrepared := begins.prepares.symm.trans also.prepares
  rcases Prod.mk.inj samePrepared with ⟨sameId, same⟩
  cases sameId
  cases same
  rfl

/-- What a run finds when it begins to write, if it does. -/
def beginning? (runner : Runner σ) (order : Order) (workspace : Workspace σ) :
    Option (Beginning σ) := do
  guard ((given order.selection.file).isSome → (given order.selection.directory).isNone)
  guard (workspace.files.contains runner.configPath)
  let config ← (Config.load workspace.files runner.configPath).toOption
  let state ← (StateFile.load workspace.files runner.statePath).toOption
  let documents ← (selectDocuments workspace.files config order.selection).1.toOption
  guard (documents ≠ [] ∧ (changed state documents ≠ [] ∨ order.isForced) ∧ !order.isPreview)
  match ((runner.coordinator config workspace.files).prepare state.rootId config.title).run
      (session workspace.remote workspace.builder state) with
  | (.ok documentId, prepared) => some ⟨config, state, documents, documentId, prepared⟩
  | (.error _, _) => none

theorem beginning?_eq_some {runner : Runner σ} {order : Order} {workspace : Workspace σ}
    {beginning : Beginning σ} :
    runner.beginning? order workspace = some beginning ↔ runner.Begins order workspace beginning := by
  simp only [beginning?, Option.bind_eq_bind, Option.bind_eq_some_iff, Except.toOption_eq_some,
    Option.guard_eq_some']
  constructor
  · rintro ⟨_, consistent, _, configured, config, loadsConfig, state, loadsState, documents, selects,
      _, ⟨nonempty, needed, writes⟩, found⟩
    split at found
    · rename_i prepares
      cases found
      exact ⟨⟨consistent, configured, loadsConfig, loadsState, selects, nonempty, needed,
        by simpa using writes⟩, prepares⟩
    · cases found
  · intro begins
    refine ⟨(), begins.consistent, (), begins.configured, _, begins.loadsConfig, _,
      begins.loadsState, _, begins.selects, (),
      ⟨begins.nonempty, begins.needed, by simp [begins.writes]⟩, ?_⟩
    rw [begins.prepares]

/-- A run has nothing to write: it finds no documents or none that has changed, or only previews
them. -/
structure Idles (runner : Runner σ) (order : Order) (workspace : Workspace σ) (config : Config)
    (state : State) (documents : List SourceDocument) : Prop where
  loadsConfig : Config.load workspace.files runner.configPath = .ok config
  loadsState : StateFile.load workspace.files runner.statePath = .ok state
  selects : (selectDocuments workspace.files config order.selection).1 = .ok documents
  idle : documents = [] ∨ changed state documents = [] ∨ order.isPreview = true

/-- What a run comes to: it writes, or it changes no file and no document of the service. -/
inductive Goes (runner : Runner Service) (order : Order) (before : Workspace Service)
    (succeeds : Prop) (after : Workspace Service) : Prop where
  | writes {beginning : Beginning Service} {middle reached : Workspace Service}
      {result : Except Failure Sync.Run} (begins : runner.Begins order before beginning)
      (files : middle.files = before.files) (remote : middle.remote = beginning.prepared.remote)
      (builder : middle.builder = beginning.prepared.builder)
      (runs : (runner.writeDocuments (runner.coordinator beginning.config before.files)
          (rooted beginning.state beginning.documentId) beginning.documents
          beginning.documentId).run middle = (result, reached))
      (tells : reached.Agrees after)
      (ends : succeeds → ∃ run, result = .ok run ∧ run.failures = [])
  | rests (never : ∀ beginning, ¬ runner.Begins order before beginning)
      (files : after.files = before.files)
      (documents : after.remote.documents = before.remote.documents)
      (renewed : after.builder.renewed = before.builder.renewed)
      (ends : succeeds → ∃ config state documents,
        runner.Idles order before config state documents)

theorem Goes.agrees {runner : Runner Service} {order : Order}
    {before after further : Workspace Service} {succeeds other : Prop}
    (goes : runner.Goes order before succeeds after) (agrees : after.Agrees further)
    (implies : other → succeeds) : runner.Goes order before other further := by
  cases goes with
  | writes begins files remote builder runs tells ends =>
      exact .writes begins files remote builder runs (tells.trans agrees) fun holds =>
        ends (implies holds)
  | rests never files documents renewed ends =>
      exact .rests never (agrees.files.trans files) (by rw [agrees.remote, documents])
        (agrees.renewed.trans renewed) fun holds => ends (implies holds)

theorem session_eq {before current : Workspace σ} (agrees : before.Agrees current)
    (state : State) :
    session current.remote current.builder state = session before.remote before.builder state := by
  rw [session, session, agrees.remote, agrees.renewed]

variable {runner : Runner Service} {order : Order} {before current : Workspace Service}

theorem meets_write (serves : runner.remote = Service.remote) {config : Config} {state : State}
    {documents : List SourceDocument} (agrees : before.Agrees current)
    (intends : runner.Intends order before config state documents) :
    Meets (runner.write config state documents) current
      (fun code reached => runner.Goes order before (code = .success) reached)
      (fun _ reached => runner.Goes order before False reached) := by
  refine .bind (.get ?_)
  have same := session_eq agrees state
  have preparesWith : (runner.coordinator config before.files).remote = Service.remote := serves
  have prepares := ((meets_prepare_documents preparesWith
    (session before.remote before.builder state) state.rootId config.title).and
    (Sync.Step.Keeps.prepare _ _ _ _)).run
  rw [← agrees.files, ← same] at prepares
  refine .bind (.inSession (prepares.mono ?_ ?_))
  · rintro documentId prepared ⟨runs, _⟩
    refine .bind (.lift ?_ (by rintro _ ⟨⟩))
    rintro _ ⟨⟩
    rw [agrees.files, same] at runs
    have begins : runner.Begins order before ⟨config, state, documents, documentId, prepared⟩ :=
      ⟨intends, runs⟩
    have goes {result : Except Failure Sync.Run} {written : Workspace Service}
        (writes : (runner.writeDocuments (runner.coordinator config current.files)
          (rooted state documentId) documents documentId).run (current.after prepared) =
            (result, written)) {succeeds : Prop} {reached : Workspace Service}
        (tells : written.Agrees reached)
        (ends : succeeds → ∃ run, result = .ok run ∧ run.failures = []) :
        runner.Goes order before succeeds reached := by
      rw [agrees.files] at writes
      exact @Goes.writes runner order before succeeds reached _ (current.after prepared) written
        result begins agrees.files rfl rfl writes tells ends
    refine .bind ((Meets.self _ _).mono ?_ ?_)
    · intro run written writes
      refine .bind ((Step.Keeps.tell runner _ written).mono ?_ ?_)
      · intro _ reached tells
        refine .pure _ (goes writes tells ?_)
        intro succeeds
        split at succeeds
        · rename_i noFailures
          exact ⟨run, rfl, List.isEmpty_iff.mp noFailures⟩
        · cases succeeds
      · exact fun _ reached tells => goes writes tells False.elim
    · exact fun _ written writes => goes writes (.refl written) False.elim
  · rintro failure reached ⟨runs, unchanged, keeps⟩
    refine .bind (.lift (by rintro _ ⟨⟩) ?_)
    rintro _ ⟨⟩
    rw [agrees.files, same] at runs
    refine .rests ?_ agrees.files ?_ ?_ False.elim
    · rintro ⟨otherConfig, otherState, otherDocuments, documentId, prepared⟩ begins
      cases intends.loadsConfig.symm.trans begins.loadsConfig
      cases intends.loadsState.symm.trans begins.loadsState
      cases (Prod.mk.inj (runs.symm.trans begins.prepares)).1
    · rw [← agrees.remote]
      exact unchanged
    · rw [Workspace.after, keeps.builder]
      exact agrees.renewed

/-- Where a run is not to write, a step that changes no file and not the remote ends it. -/
theorem meets_of_keeps {step : Step Service ExitCode} (keeps : step.Keeps)
    (agrees : before.Agrees current) (never : ∀ beginning, ¬ runner.Begins order before beginning)
    (idles : ∃ config state documents, runner.Idles order before config state documents) :
    Meets step current (fun code reached => runner.Goes order before (code = .success) reached)
      (fun _ reached => runner.Goes order before False reached) := by
  have goes (succeeds : Prop) (reached : Workspace Service) (further : current.Agrees reached) :
      runner.Goes order before succeeds reached := by
    have agrees := agrees.trans further
    exact .rests never agrees.files (by rw [agrees.remote]) agrees.renewed fun _ => idles
  exact (keeps current).mono (fun _ reached => goes _ reached) fun _ reached => goes _ reached

theorem meets_runOn (serves : runner.remote = Service.remote) {config : Config} {state : State}
    {documents : List SourceDocument} (agrees : before.Agrees current)
    (consistent : (given order.selection.file).isSome → (given order.selection.directory).isNone)
    (configured : before.files.contains runner.configPath = true)
    (loadsConfig : Config.load before.files runner.configPath = .ok config)
    (loadsState : StateFile.load before.files runner.statePath = .ok state)
    (selects : (selectDocuments before.files config order.selection).1 = .ok documents)
    (nonempty : documents ≠ []) :
    Meets (runner.runOn order config state documents) current
      (fun code reached => runner.Goes order before (code = .success) reached)
      (fun _ reached => runner.Goes order before False reached) := by
  have found (beginning : Beginning Service) (begins : runner.Begins order before beginning) :
      state = beginning.state ∧ documents = beginning.documents := by
    rcases beginning with ⟨otherConfig, otherState, otherDocuments, documentId, prepared⟩
    cases loadsConfig.symm.trans begins.loadsConfig
    cases loadsState.symm.trans begins.loadsState
    cases selects.symm.trans begins.selects
    exact ⟨rfl, rfl⟩
  rw [runOn]
  refine .bind (.modify _ ?_)
  have noted (lines : List Log.Line) :
      before.Agrees { current with log := current.log ++ lines } :=
    agrees.trans ⟨rfl, rfl, rfl⟩
  split
  · rename_i skipped
    simp only [Bool.and_eq_true, beq_iff_eq, List.length_eq_zero_iff, Bool.not_eq_true'] at skipped
    refine meets_of_keeps (.bind (.tell runner _) fun _ => .pure _) (noted _) ?_
      ⟨config, state, documents, loadsConfig, loadsState, selects, .inr (.inl skipped.1)⟩
    intro beginning begins
    rcases found beginning begins with ⟨rfl, rfl⟩
    rcases begins.needed with isChanged | isForced
    · exact isChanged skipped.1
    · rw [isForced] at skipped
      cases skipped.2
  · rename_i needed
    split
    · rename_i isPreview
      refine meets_of_keeps (keeps_preview runner config state documents) (noted _) ?_
        ⟨config, state, documents, loadsConfig, loadsState, selects, .inr (.inr isPreview)⟩
      intro beginning begins
      rw [begins.writes] at isPreview
      cases isPreview
    · rename_i writes
      refine meets_write serves (noted _) ⟨consistent, configured, loadsConfig, loadsState, selects,
        nonempty, ?_, by simpa using writes⟩
      simp only [Bool.and_eq_true, beq_iff_eq, List.length_eq_zero_iff, Bool.not_eq_true',
        not_and_or, Bool.not_eq_false] at needed
      exact needed

theorem meets_runProject (serves : runner.remote = Service.remote)
    (consistent : (given order.selection.file).isSome → (given order.selection.directory).isNone)
    (configured : before.files.contains runner.configPath = true) :
    Meets (runner.runProject order) before
      (fun code reached => runner.Goes order before (code = .success) reached)
      (fun _ reached => runner.Goes order before False reached) := by
  refine .bind (.get (.bind (.modify _ (.bind (.lift ?_ ?_)))))
  · intro config loadsConfig
    refine .bind (.modify _ (.bind (.lift ?_ ?_)))
    · intro state loadsState
      refine .bind (.modify _ (.bind (.bind (.modify _ (.lift ?_ ?_)))))
      · intro documents selects
        split
        · rename_i isEmpty
          rw [List.isEmpty_iff] at isEmpty
          refine meets_of_keeps (.bind (.tell runner _) fun _ => .pure _) ⟨rfl, rfl, rfl⟩ ?_
            ⟨config, state, documents, loadsConfig, loadsState, selects, .inl isEmpty⟩
          rintro ⟨otherConfig, otherState, otherDocuments, documentId, prepared⟩ begins
          cases loadsConfig.symm.trans begins.loadsConfig
          cases selects.symm.trans begins.selects
          exact begins.nonempty isEmpty
        · rename_i nonempty
          refine meets_runOn serves ⟨rfl, rfl, rfl⟩ consistent configured loadsConfig loadsState
            selects ?_
          rwa [List.isEmpty_iff] at nonempty
      · intro failure fails
        refine .rests ?_ rfl rfl rfl False.elim
        rintro ⟨otherConfig, otherState, otherDocuments, documentId, prepared⟩ begins
        cases loadsConfig.symm.trans begins.loadsConfig
        cases fails.symm.trans begins.selects
    · intro failure fails
      refine .rests ?_ rfl rfl rfl False.elim
      intro beginning begins
      cases fails.symm.trans begins.loadsState
  · intro failure fails
    refine .rests ?_ rfl rfl rfl False.elim
    intro beginning begins
    cases fails.symm.trans begins.loadsConfig

/-- A run that is refused before it reads anything does not succeed. -/
theorem meets_refused (never : ∀ beginning, ¬ runner.Begins order before beginning)
    (notices : List Notice) :
    Meets (do
        runner.tell notices
        return .failure : Step Service ExitCode) before
      (fun code reached => runner.Goes order before (code = .success) reached)
      (fun _ reached => runner.Goes order before False reached) := by
  refine .bind ((Step.Keeps.tell runner notices before).mono ?_ ?_)
  · intro _ reached agrees
    refine .pure _ (.rests never agrees.files (by rw [agrees.remote]) agrees.renewed ?_)
    rintro ⟨⟩
  · exact fun _ _ agrees =>
      .rests never agrees.files (by rw [agrees.remote]) agrees.renewed False.elim

theorem meets_runChecked (serves : runner.remote = Service.remote) (order : Order)
    (before : Workspace Service) :
    Meets (runner.runChecked order) before
      (fun code reached => runner.Goes order before (code = .success) reached)
      (fun _ reached => runner.Goes order before False reached) := by
  rw [runChecked]
  split
  · rename_i contradictory
    refine meets_refused ?_ _
    intro beginning begins
    have consistent := begins.consistent
    simp_all
  · rename_i consistent
    refine .bind (.get ?_)
    split
    · rename_i configured
      refine meets_runProject serves ?_ configured
      simpa using consistent
    · rename_i missing
      exact meets_refused (fun beginning begins => missing begins.configured) _

theorem code_ending_ne (failure : Failure) : (ending failure).code ≠ .success := by
  rw [ending]
  dsimp only
  repeat' split
  all_goals exact ExitCode.noConfusion

/-- What every run comes to, whatever its files hold and whichever faults are planned. -/
theorem meets_run (serves : runner.remote = Service.remote) (order : Order)
    (before : Workspace Service) :
    Meets (runner.run order) before
      (fun code reached => runner.Goes order before (code = .success) reached)
      (fun _ reached => runner.Goes order before False reached) := by
  refine .tryCatch ((meets_runChecked serves order before).mono (fun _ _ goes => goes) ?_)
  intro failure middle goes
  refine .bind (.modify _ (.bind ((Step.Keeps.tell runner _ _).mono ?_ ?_)))
  · intro _ reached agrees
    have told : middle.Agrees reached := ⟨agrees.files, agrees.remote, agrees.renewed⟩
    exact .pure _ (goes.agrees told (code_ending_ne failure))
  · intro _ reached agrees
    have told : middle.Agrees reached := ⟨agrees.files, agrees.remote, agrees.renewed⟩
    exact goes.agrees told id

end Runner

end Project

end DocBinder
