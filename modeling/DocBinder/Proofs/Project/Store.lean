import DocBinder.Proofs.Project.Course
import DocBinder.Proofs.Sync.Remember
import DocBinder.Proofs.Yaml.Names

/-!
# What a run stores

A run that gets to writing stores what it has written and nothing else, whether it goes through all
documents or is given up on the way. Every other run leaves all files as they are, and all documents of
the service.
-/

namespace DocBinder.Project

open Docs
open Sync (Coordinator Session SourceDocument State Outcome Recorded Passes finished latest?)

/-! ## The stored state -/

namespace StateFile

theorem name_of_recordOf {path value : Value} {entry : String × Sync.Record}
    (gives : recordOf path value = .ok entry) : path = .str entry.1 := by
  unfold recordOf at gives
  split at gives
  · dsimp only at gives
    split at gives
    · rcases Except.exists_of_map_eq_ok gives with ⟨record, _, rfl⟩
      rfl
    · cases gives
  · cases gives

theorem paths_of_mapM {entries : List (Value × Value)} {records : List (String × Sync.Record)}
    (gives : entries.mapM (fun entry => recordOf entry.1 entry.2) = .ok records) :
    records.map (·.1) = Value.names entries := by
  induction entries generalizing records with
  | nil =>
      cases gives
      rfl
  | cons entry rest step =>
      rw [List.mapM_cons] at gives
      rcases Except.exists_of_bind_eq_ok gives with ⟨first, isFirst, gives⟩
      rcases Except.exists_of_bind_eq_ok gives with ⟨others, areOthers, gives⟩
      cases gives
      rw [List.map_cons, step areOthers, Value.names_cons, name_of_recordOf isFirst]
      rfl

theorem nodup_of_recordsOf {value : Value} {records : List (String × Sync.Record)}
    (distinct : value.Distinct) (gives : recordsOf value = .ok records) :
    (records.map (·.1)).Nodup := by
  unfold recordsOf at gives
  split at gives
  · cases gives
    exact List.nodup_nil
  · split at gives
    · rename_i entries _
      cases distinct with
      | map once _ =>
          rw [paths_of_mapM gives]
          exact once
      | other isOther => cases isOther
    · cases gives

theorem nodup_of_ofValue {value : Value} {state : State} (distinct : value.Distinct)
    (gives : ofValue value = .ok state) : state.paths.Nodup := by
  rcases Except.exists_of_bind_eq_ok gives with ⟨rootId, _, gives⟩
  rcases Except.exists_of_bind_eq_ok gives with ⟨rootUrl, _, gives⟩
  rcases Except.exists_of_bind_eq_ok gives with ⟨lastSynced, _, gives⟩
  rcases Except.exists_of_bind_eq_ok gives with ⟨records, areRecords, gives⟩
  cases gives
  exact nodup_of_recordsOf (distinct.part _) areRecords

/-- A state that is read has one record for each path. -/
theorem nodup_of_load {files : FileTree} {path : String} {state : State}
    (loads : load files path = .ok state) : state.paths.Nodup := by
  unfold load at loads
  split at loads
  · cases loads
    exact List.nodup_nil
  · cases loads
  · cases loads
  · unfold ofText at loads
    split at loads
    · cases loads
      exact List.nodup_nil
    · split at loads
      · cases loads
      · cases loads
      · rename_i content reads
        have distinct := Yaml.read_distinct reads
        split at loads
        · cases loads
          exact List.nodup_nil
        · rename_i entries isMapping
          rw [isMapping] at distinct
          exact nodup_of_ofValue distinct loads
        · cases loads

end StateFile

/-! ## Telling and storing -/

namespace Runner

variable {σ : Type}

/-- What the user is told about a document. -/
def shown (runner : Runner σ) (outcome : Outcome) : Except Failure Text :=
  documentNotices outcome >>= shownAll runner.verbosity

/-- A state with the titles of the documents that the user was told about, and the failure of telling
one of them. -/
def titled (runner : Runner σ) (state : State) : List Outcome → State × Option Failure
  | [] => (state, none)
  | outcome :: rest =>
      match runner.shown outcome with
      | .error failure => (state, some failure)
      | .ok _ => runner.titled
          (if outcome.succeeded then state.setTitle outcome.path outcome.title else state) rest

/-- The state that writing documents ends with. -/
def concluded (runner : Runner σ) (state : State) : Except Failure Sync.Run → State
  | .error _ => state
  | .ok run =>
      let (titled, failure) := runner.titled state run.outcomes
      if failure.isNone then titled.markCompleted runner.now else titled

/-- A state has the records and the document of another one, perhaps with other titles and another
time. -/
structure Retitled (before after : State) : Prop where
  root : after.rootId = before.rootId
  paths : after.paths = before.paths
  entry : ∀ path, after.record? path = before.record? path

theorem retitled_titled (runner : Runner σ) (outcomes : List Outcome) (state : State) :
    Retitled state (runner.titled state outcomes).1 := by
  induction outcomes generalizing state with
  | nil => exact ⟨rfl, rfl, fun _ => rfl⟩
  | cons outcome rest step =>
      rw [titled]
      split
      · exact ⟨rfl, rfl, fun _ => rfl⟩
      · have titled := step (if outcome.succeeded then state.setTitle outcome.path outcome.title
          else state)
        split at titled
        · rename_i succeeded
          rw [if_pos succeeded]
          exact ⟨titled.root, titled.paths.trans (State.paths_setTitle ..), fun path =>
            (titled.entry path).trans (State.record?_setTitle ..)⟩
        · rename_i failed
          rw [if_neg failed]
          exact titled

theorem retitled_concluded (runner : Runner σ) (state : State)
    (result : Except Failure Sync.Run) : Retitled state (runner.concluded state result) := by
  cases result with
  | error failure => exact ⟨rfl, rfl, fun _ => rfl⟩
  | ok run =>
      have titled := retitled_titled runner run.outcomes state
      rw [concluded]
      dsimp only
      split
      · exact ⟨titled.root, titled.paths, titled.entry⟩
      · exact titled

theorem shownAll_cons (verbosity : Int) (notice : Notice) (rest : List Notice) :
    shownAll verbosity (notice :: rest) = (do
      let text ← notice.shown verbosity
      return text ++ (← shownAll verbosity rest)) := by
  rw [shownAll, shownAll, List.mapM_cons]
  rcases notice.shown verbosity with failure | text
  · rfl
  · rcases rest.mapM (Notice.shown verbosity) with failure | texts
    · rfl
    · rfl

variable (runner : Runner σ) (workspace : Workspace σ)

/-- Telling succeeds when all notices can be shown. -/
theorem meets_tell (notices : List Notice) :
    Meets (runner.tell notices) workspace
      (fun _ reached => workspace.Agrees reached ∧
        ∃ text, shownAll runner.verbosity notices = .ok text)
      (fun failure reached => workspace.Agrees reached ∧
        shownAll runner.verbosity notices = .error failure) := by
  induction notices generalizing workspace with
  | nil => exact .pure _ ⟨.refl _, _, rfl⟩
  | cons notice rest step =>
      rw [shownAll_cons]
      refine .bind (.lift ?_ ?_)
      · intro text shows
        rw [shows]
        refine .bind (.modify _ ((step _).mono ?_ ?_))
        · rintro _ reached ⟨agrees, others, areOthers⟩
          rw [areOthers]
          exact ⟨⟨agrees.files, agrees.remote, agrees.renewed⟩, text ++ others, rfl⟩
        · rintro failure reached ⟨agrees, fails⟩
          rw [fails]
          exact ⟨⟨agrees.files, agrees.remote, agrees.renewed⟩, rfl⟩
      · intro failure fails
        rw [fails]
        exact ⟨.refl _, rfl⟩

theorem meets_tellOutcomes (outcomes : List Outcome) (state : State) :
    Meets (runner.tellOutcomes state outcomes) workspace
      (fun result reached => workspace.Agrees reached ∧ result = runner.titled state outcomes)
      never := by
  induction outcomes generalizing state workspace with
  | nil => exact .pure _ ⟨.refl _, rfl⟩
  | cons outcome rest step =>
      have told : Meets (do
          runner.tell (← ExceptT.mk (pure (documentNotices outcome))) : Step σ Unit) workspace
          (fun _ reached => workspace.Agrees reached ∧ ∃ text, runner.shown outcome = .ok text)
          (fun failure reached => workspace.Agrees reached ∧
            runner.shown outcome = .error failure) := by
        refine .bind (.lift ?_ ?_)
        · intro notices areNotices
          rw [shown, areNotices]
          exact meets_tell runner workspace notices
        · intro failure fails
          rw [shown, fails]
          exact ⟨.refl _, rfl⟩
      refine .bind (.attemptRun (told.mono ?_ ?_))
      · rintro _ middle ⟨agrees, text, shows⟩
        dsimp only
        refine (step middle _).mono ?_ fun _ _ impossible => impossible
        rintro result reached ⟨further, isTitled⟩
        refine ⟨agrees.trans further, ?_⟩
        rw [titled, shows]
        exact isTitled
      · rintro failure middle ⟨agrees, fails⟩
        refine .pure _ ⟨agrees, ?_⟩
        rw [titled, fails]

theorem meets_conclude (state : State) (result : Except Failure Sync.Run) :
    Meets (runner.conclude state result) workspace
      (fun ending reached => workspace.Agrees reached ∧ ending.2 = runner.concluded state result ∧
        ∀ run, ending.1 = .ok run → result = .ok run) never := by
  cases result with
  | error failure => exact .pure _ ⟨.refl _, rfl, by rintro _ ⟨⟩⟩
  | ok run =>
      refine .bind ((meets_tellOutcomes runner workspace run.outcomes state).mono ?_
        fun _ _ impossible => impossible)
      rintro ⟨titled, failure⟩ reached ⟨agrees, isTitled⟩
      rw [concluded, ← isTitled]
      cases failure with
      | none => exact .pure _ ⟨agrees, rfl, fun _ same => same⟩
      | some failure => exact .pure _ ⟨agrees, rfl, by rintro _ ⟨⟩⟩

/-! ## Writing -/

/-- A state records documents that were written to a remote document, and nothing else. Each path has
one record, that of the last document with this path. -/
structure Records (documentId : String) (documents : List SourceDocument) (state : State) :
    Prop where
  root : state.rootId = some documentId
  once : state.paths.Nodup
  entry : ∀ path, state.record? path =
    (latest? path documents).map fun document => (document.hash, documentId)

/-- The state file was stored. When the file system refuses it, all files stay as they are. -/
inductive Saves (runner : Runner σ) (state : State) (before after : FileTree) : Prop where
  | saved (saves : StateFile.save state before runner.statePath = .ok after)
  | refused {failure : Failure} (fails : StateFile.save state before runner.statePath =
      .error failure) (same : after = before)

/-- A run has written the documents up to one at which it was given up, if it was, and has stored
the records of those that went through all phases. -/
inductive Stores (runner : Runner σ) (coordinator : Coordinator σ) (documentId : String)
    (session : Session σ) (documents : List SourceDocument) (before after : FileTree) : Prop where
  | intro {front rest : List SourceDocument} {outcomes : List Outcome} {last : Session σ}
      {state : State} (split : documents = front ++ rest)
      (passes : Passes coordinator documentId (Recorded coordinator documentId) front session
        outcomes last)
      (ends : rest = [] ∨ ∃ document behind failure, rest = document :: behind ∧
        ((coordinator.recordDocument document documentId).run last).1 = .error failure)
      (records : Records documentId (finished front outcomes) state)
      (saves : runner.Saves state before after)

/-- The state that is stored after documents were written, with what that came to and the session
after it. -/
def stored (runner : Runner σ) (state : State) (result : Except Failure Sync.Run)
    (ended : Session σ) : State :=
  (runner.concluded (ended.state.getD state) result).retain ended.written

/-- What is stored are the records of the documents that a session remembers. -/
theorem records_stored {coordinator : Coordinator σ} {documentId : String} {state : State}
    (root : state.rootId = some documentId) (once : state.paths.Nodup)
    {documents : List SourceDocument} {remote : σ} {builder : Placeholder.BuilderState}
    {ended : Session σ} (recalls : (session remote builder state).Recalls documents documentId
      coordinator.now ended) (result : Except Failure Sync.Run) :
    Records documentId documents (runner.stored state result ended) := by
  have isState : ended.state = some (state.recordAll documents documentId coordinator.now) :=
    recalls.state
  have written : ended.written = documents.map (·.path) := recalls.written
  have retitled := retitled_concluded runner (state.recordAll documents documentId coordinator.now)
    result
  rw [stored, isState, Option.getD_some, written]
  refine ⟨?_, ?_, ?_⟩
  · exact retitled.root.trans ((State.rootId_recordAll ..).trans root)
  · apply State.nodup_retain
    rw [retitled.paths]
    exact State.nodup_recordAll once ..
  · intro path
    rw [State.record?_retain, retitled.entry, State.record?_recordAll]
    split
    · rename_i isWritten
      rcases Option.isSome_iff_exists.mp (Sync.latest?_isSome.mpr isWritten) with ⟨last, isLast⟩
      rw [isLast]
      rfl
    · rename_i isOther
      rw [← Sync.latest?_isSome, Option.not_isSome_iff_eq_none] at isOther
      rw [isOther]
      rfl

variable {runner workspace} {coordinator : Coordinator σ} {documentId : String}

theorem meets_store (state : State) (written : List String) (workspace : Workspace σ) :
    Meets (runner.store state written) workspace
      (fun _ reached => runner.Saves (state.retain written) workspace.files reached.files ∧
        reached.remote = workspace.remote ∧ reached.builder = workspace.builder)
      (fun _ reached => runner.Saves (state.retain written) workspace.files reached.files ∧
        reached.remote = workspace.remote ∧ reached.builder = workspace.builder) := by
  have saves (current : Workspace σ) (files : current.files = workspace.files)
      (remote : current.remote = workspace.remote)
      (builder : current.builder = workspace.builder) :
      Meets (do
          let files ← ExceptT.mk (pure
            (StateFile.save (state.retain written) (← get).files runner.statePath))
          modify fun workspace => { workspace with files := files } : Step σ Unit) current
        (fun _ reached => runner.Saves (state.retain written) workspace.files reached.files ∧
          reached.remote = workspace.remote ∧ reached.builder = workspace.builder)
        (fun _ reached => runner.Saves (state.retain written) workspace.files reached.files ∧
          reached.remote = workspace.remote ∧ reached.builder = workspace.builder) := by
    refine .bind (.get (.bind (.lift ?_ ?_)))
    · intro stored saves
      exact .modify _ ⟨.saved (files ▸ saves), remote, builder⟩
    · intro failure fails
      exact ⟨.refused (files ▸ fails) files, remote, builder⟩
  rw [store]
  split
  · exact .bind (.modify _ (saves _ rfl rfl rfl))
  · exact saves workspace rfl rfl rfl

/-- What writing documents has left of a workspace: the state is stored, and the remote and the builder
are those of the session in which the documents were written. -/
structure Leaves (runner : Runner σ) (state : State) (result : Except Failure Sync.Run)
    (ended : Session σ) (before : FileTree) (after : Workspace σ) : Prop where
  saves : runner.Saves (runner.stored state result ended) before after.files
  remote : after.remote = ended.remote
  renewed : after.builder.renewed = ended.builder.renewed

/-- Whether all documents were written or the run was given up at one of them, what was written is
stored. -/
theorem meets_writeDocuments {state : State} {documents : List SourceDocument}
    {result : Except Failure Sync.Run} {ended : Session σ}
    (runs : (coordinator.writeAll documents documentId).run
      (session workspace.remote workspace.builder state) = (result, ended)) :
    Meets (runner.writeDocuments coordinator state documents documentId) workspace
      (fun run reached => runner.Leaves state result ended workspace.files reached ∧ result = .ok run)
      (fun _ reached => runner.Leaves state result ended workspace.files reached) := by
  have stores : Meets (runner.conclude (ended.state.getD state) result) (workspace.after ended)
      (fun ending middle => Meets (do
          runner.store ending.2 ended.written
          ExceptT.mk (pure ending.1) : Step σ Sync.Run) middle
        (fun run reached => runner.Leaves state result ended workspace.files reached ∧ result = .ok run)
        (fun _ reached => runner.Leaves state result ended workspace.files reached)) never := by
    refine (meets_conclude ..).mono ?_ fun _ _ impossible => impossible
    rintro ⟨ending, told⟩ middle ⟨agrees, rfl, ends⟩
    have leaves (reached : Workspace σ)
        (saves : runner.Saves (runner.stored state result ended) middle.files reached.files)
        (remote : reached.remote = middle.remote) (builder : reached.builder = middle.builder) :
        runner.Leaves state result ended workspace.files reached := by
      rw [agrees.files] at saves
      exact ⟨saves, remote.trans agrees.remote, by rw [builder, agrees.renewed]; rfl⟩
    refine .bind ((meets_store _ ended.written middle).mono ?_ ?_)
    · rintro _ reached ⟨saves, remote, builder⟩
      have leaves := leaves reached saves remote builder
      exact .lift (fun run isRun => ⟨leaves, ends run isRun⟩) fun _ _ => leaves
    · rintro _ reached ⟨saves, remote, builder⟩
      exact leaves reached saves remote builder
  refine .bind (.inSession ?_)
  cases result with
  | ok run => exact .of_run runs (.bind stores.total)
  | error failure => exact .of_run_error runs (.bind stores.total)

theorem Leaves.agrees {state : State} {result : Except Failure Sync.Run} {ended : Session σ}
    {before : FileTree} {after further : Workspace σ}
    (leaves : runner.Leaves state result ended before after) (agrees : after.Agrees further) :
    runner.Leaves state result ended before further where
  saves := by
    rw [agrees.files]
    exact leaves.saves
  remote := agrees.remote.trans leaves.remote
  renewed := agrees.renewed.trans leaves.renewed

/-- What a run leaves is stored for the documents that went through all phases. -/
theorem Leaves.stores {state : State} (root : state.rootId = some documentId)
    (once : state.paths.Nodup) {documents : List SourceDocument} {remote : σ}
    {builder : Placeholder.BuilderState} {result : Except Failure Sync.Run} {ended : Session σ}
    {before : FileTree} {after : Workspace σ}
    (runs : (coordinator.writeAll documents documentId).run (session remote builder state) =
      (result, ended)) (leaves : runner.Leaves state result ended before after) :
    runner.Stores coordinator documentId (session remote builder state) documents before
      after.files := by
  have recalls := coordinator.meets_writeAll_recalls documents documentId
    (session remote builder state)
  rw [Meets, runs] at recalls
  cases result with
  | ok run =>
      rcases recalls with ⟨outcomes, last, passes, recalls⟩
      exact .intro (List.append_nil _).symm passes (.inl rfl)
        (records_stored runner root once recalls _) leaves.saves
  | error failure =>
      rcases recalls with ⟨front, document, rest, outcomes, last, split, passes, fails, recalls⟩
      exact .intro split passes (.inr ⟨document, rest, failure, rfl, fails⟩)
        (records_stored runner root once recalls _) leaves.saves

/-! ## Whole runs -/

/-- A run that gets to writing stores what it has written. Every other run changes no file and no
document of the service. -/
structure Settles (runner : Runner Service) (order : Order) (before after : Workspace Service) :
    Prop where
  writing : ∀ beginning, runner.Begins order before beginning →
    runner.Stores (runner.coordinator beginning.config before.files) beginning.documentId
      (session beginning.prepared.remote beginning.prepared.builder
        (rooted beginning.state beginning.documentId))
      beginning.documents before.files after.files
  otherwise : (∀ beginning, ¬ runner.Begins order before beginning) →
    after.files = before.files ∧ after.remote.documents = before.remote.documents

variable {runner : Runner Service}

/-- The session in which a run that has begun to write writes its documents. -/
def Beginning.session (beginning : Beginning Service) : Session Service :=
  Runner.session beginning.prepared.remote beginning.prepared.builder
    (rooted beginning.state beginning.documentId)

/-- A run that begins to write leaves what comes of writing its documents. It succeeds only when none
of them fails. -/
theorem Goes.leaves {order : Order} {before after : Workspace Service} {succeeds : Prop}
    {beginning : Beginning Service} (goes : runner.Goes order before succeeds after)
    (begins : runner.Begins order before beginning) {result : Except Failure Sync.Run}
    {ended : Session Service}
    (writes : ((runner.coordinator beginning.config before.files).writeAll beginning.documents
      beginning.documentId).run beginning.session = (result, ended)) :
    runner.Leaves (rooted beginning.state beginning.documentId) result ended before.files after ∧
      (succeeds → ∃ run, result = .ok run ∧ run.failures = []) := by
  cases goes with
  | writes also files remote builder runs tells ends =>
      cases begins.unique also
      rename_i middle reached gives
      rw [Beginning.session, ← remote, ← builder] at writes
      have wrote := @meets_writeDocuments _ runner middle _ _ _ _ _ _ writes
      rw [Meets, runs] at wrote
      cases gives with
      | ok run =>
          rcases wrote with ⟨leaves, rfl⟩
          exact ⟨(files ▸ leaves).agrees tells, ends⟩
      | error failure =>
          refine ⟨(files ▸ wrote).agrees tells, fun succeeds => ?_⟩
          rcases ends succeeds with ⟨run, impossible, _⟩
          cases impossible
  | rests never files documents renewed ends => exact absurd begins (never beginning)

/-- What a run comes to, it stores. -/
theorem Goes.settles {order : Order} {before after : Workspace Service} {succeeds : Prop}
    (goes : runner.Goes order before succeeds after) : runner.Settles order before after := by
  refine ⟨?_, ?_⟩
  · intro beginning begins
    have once : (rooted beginning.state beginning.documentId).paths.Nodup := by
      change beginning.state.paths.Nodup
      exact StateFile.nodup_of_load begins.loadsState
    exact (goes.leaves begins rfl).1.stores rfl once rfl
  · intro never
    cases goes with
    | writes begins => exact absurd begins (never _)
    | rests _ files documents => exact ⟨files, documents⟩

/-- Whatever a run is asked to do, whatever its files hold and whichever faults are planned: when it
gets to writing, it stores the documents that have gone through all phases, also when it is given up.
Otherwise it changes no file and no document of the service. -/
theorem settles_run (serves : runner.remote = Service.remote) (order : Order)
    (workspace : Workspace Service) :
    runner.Settles order workspace ((runner.run order).run workspace).2 :=
  Meets.reached (fun reached => runner.Settles order workspace reached)
    ((meets_run serves order workspace).mono (fun _ _ goes => goes.settles)
      fun _ _ goes => goes.settles)

/-- A runner on the service without uploader and renderer. -/
def plain : Runner Service :=
  ⟨Service.remote, none, none, 0, "2026-01-01T00:00:00Z", ".gdocs-sync/config.yaml",
    defaultStatePath⟩

/-- A project with one document that was never written. -/
def unwritten : Workspace Service :=
  ⟨⟨["home"], [(["home"], .directory), (["home", ".gdocs-sync"], .directory),
      (["home", ".gdocs-sync", "config.yaml"], .file "docs_dir: docs\n".toUTF8),
      (["home", "docs"], .directory), (["home", "docs", "a.md"], .file "a\n".toUTF8)]⟩,
    .ofDocuments [] .none, .initial, [], []⟩

/-- The first run of a project gets to writing. -/
theorem settles_run_unwritten :
    plain.Settles ⟨false, false, ⟨none, none⟩⟩ unwritten
        ((plain.run ⟨false, false, ⟨none, none⟩⟩).run unwritten).2 ∧
      ((plain.run ⟨false, false, ⟨none, none⟩⟩).run unwritten).2.files.isFile plain.statePath =
        true :=
  ⟨settles_run rfl _ _, by decide +kernel⟩

end Runner

end DocBinder.Project
