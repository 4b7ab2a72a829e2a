import DocBinder.Access.Client
import DocBinder.Project.Report
import DocBinder.Project.Select
import DocBinder.Project.StateFile

/-!
# Synchronizing a project

A run reads the configuration and the stored state, selects documents, and writes them when one of
them has changed since the last run, or when it is forced to. Before it writes, the remote document
is cleared; from then on the stored state holds what this run has written and nothing else, also
when the run is aborted. Every failure is told to the user and becomes an exit code.
-/

namespace DocBinder.Project

open Docs
open Sync (Coordinator Outcome Session State)

/-- How a run ends. -/
inductive ExitCode where
  | success
  | failure
  | documentsFailed
  | accessFailed
  | networkFailed
deriving DecidableEq, Repr, Inhabited

/-- The number of an exit code. -/
def ExitCode.number : ExitCode → Nat
  | .success => 0
  | .failure => 1
  | .documentsFailed => 2
  | .accessFailed => 3
  | .networkFailed => 4

/-- What a run is asked to do: to write or only to preview, also when nothing has changed, which
documents. -/
structure Order where
  isPreview : Bool
  isForced : Bool
  selection : Selection
deriving DecidableEq, Repr, Inhabited

/-- What runs work with. The time is the one that is stamped on what they store. -/
structure Runner (σ : Type) where
  remote : Remote σ
  uploader : Option Placeholder.Uploader
  renderer : Option Placeholder.Renderer
  verbosity : Int
  now : String
  configPath : String
  statePath : String

/-- What runs change: the files, the remote, the builder of tokens, what the user is told, and the
log. -/
structure Workspace (σ : Type) where
  files : FileTree
  remote : σ
  builder : Placeholder.BuilderState
  output : Text
  log : List Log.Line

/-- The path of the state file when none is given. -/
def defaultStatePath : String :=
  ".gdocs-sync/state.yaml"

namespace Runner

variable {σ : Type}

/-- A step of a run, which keeps what was done before a failure. -/
abbrev Step (σ α : Type) := ExceptT Failure (StateM (Workspace σ)) α

/-- Add lines to the log. -/
def report (lines : List Log.Line) : Step σ Unit :=
  modify fun workspace => { workspace with log := workspace.log ++ lines }

/-- Add information to the log. -/
def note (message : String) : Step σ Unit :=
  report [⟨.info, .synchronization, message⟩]

/-- Tell the user something. -/
def tell (runner : Runner σ) : List Notice → Step σ Unit
  | [] => return
  | notice :: rest => do
      let text ← ExceptT.mk (pure (notice.shown runner.verbosity))
      modify fun workspace => { workspace with output := workspace.output ++ text }
      runner.tell rest

/-- Take a step and keep what it fails with. -/
def attempt {α : Type} (step : Step σ α) : Step σ (Except Failure α) :=
  ExceptT.mk fun workspace =>
    let (result, workspace) := step.run workspace
    (.ok result, workspace)

/-- A result that is already known, with its log. -/
def logged {α : Type} (result : Logged α) : Step σ α := do
  report result.2
  ExceptT.mk (pure result.1)

/-- The session in which a coordinator begins to work from a stored state. -/
def session (remote : σ) (builder : Placeholder.BuilderState) (state : State) : Session σ :=
  ⟨remote, builder.renewed, some state, [], []⟩

/-- Take a step of the coordinator in a session of its own, from a stored state. Gives its result
and the session after it. -/
def inSession {α : Type} (state : State) (step : Sync.Step σ α) :
    Step σ (Except Failure α × Session σ) :=
  ExceptT.mk fun workspace =>
    let (result, session) := step.run (session workspace.remote workspace.builder state)
    (.ok (result, session), { workspace with
      remote := session.remote
      builder := session.builder
      log := workspace.log ++ session.log })

/-- The coordinator of a run with a configuration. -/
def coordinator (runner : Runner σ) (config : Config) (files : FileTree) : Coordinator σ :=
  let languages := config.diagramLanguages.map String.toList
  ⟨runner.remote, languages.map Text.lower,
    ⟨Placeholder.diagramLanguages languages, runner.uploader, runner.renderer, files⟩,
    config.chunkSize.toNat, runner.now⟩

/-! ## Previewing -/

/-- Tell the user what a run would come to. -/
def preview (runner : Runner σ) (config : Config) (state : State)
    (documents : List Sync.SourceDocument) : Step σ ExitCode := do
  note s!"Dry run: previewing {documents.length} document(s)"
  let coordinator := runner.coordinator config (← get).files
  let (result, _) ← inSession state (documents.mapM coordinator.preview)
  runner.tell (previewNotices (← ExceptT.mk (pure result)))
  return .success

/-! ## Writing -/

/-- Tell the user about documents and remember the titles of those that were written, until telling
fails. Gives the state and that failure. -/
def tellOutcomes (runner : Runner σ) (state : State) :
    List Outcome → Step σ (State × Option Failure)
  | [] => return (state, none)
  | outcome :: rest => do
      let told : Step σ Unit := do
        runner.tell (← ExceptT.mk (pure (documentNotices outcome)))
      match ← attempt told with
      | .error failure => return (state, some failure)
      | .ok () =>
          runner.tellOutcomes
            (if outcome.succeeded then state.setTitle outcome.path outcome.title else state) rest

/-- Store the state of a run that has written some documents. What others were there before is
forgotten, because the remote document was cleared. -/
def store (runner : Runner σ) (state : State) (written : List String) : Step σ Unit := do
  let dropped := state.droppedPaths written
  if !dropped.isEmpty then
    note (s!"Dropped sync state of {dropped.length} document(s) not written by this run: "
      ++ ", ".intercalate dropped)
  let files ← ExceptT.mk (pure
    (StateFile.save (state.retain written) (← get).files runner.statePath))
  modify fun workspace => { workspace with files := files }

/-- Tell the user how writing documents ended. Gives the state that is to be stored, and the end of
the run, which fails also when telling fails. -/
def conclude (runner : Runner σ) (state : State) :
    Except Failure Sync.Run → Step σ (Except Failure Sync.Run × State)
  | .error failure => return (.error failure, state)
  | .ok run => do
      match ← runner.tellOutcomes state run.outcomes with
      | (titled, some failure) => return (.error failure, titled)
      | (titled, none) => return (.ok run, titled.markCompleted runner.now)

/-- Write documents to a remote document that was cleared, and store what was written, whatever
happens. -/
def writeDocuments (runner : Runner σ) (coordinator : Coordinator σ) (state : State)
    (documents : List Sync.SourceDocument) (documentId : String) : Step σ Sync.Run := do
  let (result, session) ← inSession state (coordinator.writeAll documents documentId)
  let (ending, reached) ← runner.conclude (session.state.getD state) result
  runner.store reached session.written
  ExceptT.mk (pure ending)

/-- A state with another document that everything is written to. -/
def rooted (state : State) (documentId : String) : State :=
  { state with rootId := some documentId, rootUrl := some (Access.documentAddress documentId) }

/-- Make the remote document exist, write documents to it, and tell the user how it went. -/
def write (runner : Runner σ) (config : Config) (state : State)
    (documents : List Sync.SourceDocument) : Step σ ExitCode := do
  let coordinator := runner.coordinator config (← get).files
  let (prepared, _) ← inSession state (coordinator.prepare state.rootId config.title)
  let documentId ← ExceptT.mk (pure prepared)
  let run ← runner.writeDocuments coordinator (rooted state documentId) documents documentId
  runner.tell (summaryNotices run (Access.documentAddress documentId))
  return if run.failures.isEmpty then .success else .documentsFailed

/-! ## Whole runs -/

/-- What is told in a project without a configuration. -/
def gettingStarted : List Notice :=
  ["No sync configuration found.\n", "To get started, initialize with your docs directory:\n",
    "  gdocs-sync --init --dir ./docs\n", "Required environment variables:",
    "  GOOGLE_CLIENT_ID        - OAuth client ID (desktop app)",
    "  GOOGLE_CLIENT_SECRET    - OAuth client secret\n",
    "Run 'gdocs-sync --help' for more options."].map .plain

/-- A run in which no document has changed. -/
def skippedRun (documents : List Sync.SourceDocument) (state : State) : Sync.Run :=
  ⟨state.rootId, documents.map fun document =>
    { Outcome.start document.path document.title with status := some .skipped }⟩

/-- The documents that have changed since they were last written. -/
def changed (state : State) (documents : List Sync.SourceDocument) : List Sync.SourceDocument :=
  documents.filter fun document => state.hash? document.path != some document.hash

/-- A run on documents that were selected. -/
def runOn (runner : Runner σ) (order : Order) (config : Config) (state : State)
    (documents : List Sync.SourceDocument) : Step σ ExitCode := do
  let changedCount := (changed state documents).length
  note s!"{changedCount} of {documents.length} document(s) changed"
  if changedCount == 0 && !order.isForced then
    runner.tell (summaryNotices (skippedRun documents state) (state.rootUrl.getD ""))
    return .success
  else if order.isPreview then runner.preview config state documents
  else runner.write config state documents

/-- A run in a project with a configuration. -/
def runProject (runner : Runner σ) (order : Order) : Step σ ExitCode := do
  let files := (← get).files
  note s!"Loading configuration from {runner.configPath}"
  let config ← ExceptT.mk (pure (Config.load files runner.configPath))
  note s!"Loading sync state from {runner.statePath}"
  let state ← ExceptT.mk (pure (StateFile.load files runner.statePath))
  let last := state.lastSynced.getD "never"
  note s!"Last synced: {last}"
  let documents ← logged (selectDocuments files config order.selection)
  if documents.isEmpty then
    let place := (given order.selection.directory).getD config.docsDirectory
    runner.tell [.warning s!"No markdown files found in {place}"]
    return .success
  else runner.runOn order config state documents

/-- A run, unless it is asked for something contradictory or the project has no configuration. -/
def runChecked (runner : Runner σ) (order : Order) : Step σ ExitCode := do
  if (given order.selection.file).isSome && (given order.selection.directory).isSome then
    runner.tell [.error "Cannot use a FILE argument together with --dir"]
    return .failure
  else if (← get).files.contains runner.configPath then runner.runProject order
  else
    runner.tell gettingStarted
    return .failure

/-- How a failed run is reported: in the log, to the user, and by the exit code. -/
structure Ending where
  line : String
  notices : List Notice
  code : ExitCode
deriving Repr, Inhabited

/-- How a run ends that failed. -/
def ending (failure : Failure) : Ending :=
  let reason := failure.message
  let same (lead : String) (hints : List Notice) (code : ExitCode) : Ending :=
    ⟨s!"{lead}: {reason}", .error s!"{lead}: {reason}" :: hints, code⟩
  if failure.cause.isInvalidCredentials then
    same "Authentication failed"
      [.info "Check GOOGLE_CLIENT_ID and GOOGLE_CLIENT_SECRET environment variables"] .accessFailed
  else if failure.cause.isPermissionDenied then same "Access denied" [] .accessFailed
  else if failure.cause.isDocs then
    same "API error" [.info "Check your internet connection and try again"] .networkFailed
  else if failure.cause.isConfiguration then same "Configuration error" [] .failure
  else if failure.cause.isMapper || failure.cause.isCommandLine then
    ⟨s!"Sync error: {reason}", [.error s!"Error: {reason}"], .failure⟩
  else
    ⟨"Unexpected error during sync", [.error s!"Unexpected error: {reason}"], .failure⟩

/-- A run. It fails only when the user cannot be told. -/
def run (runner : Runner σ) (order : Order) : Step σ ExitCode :=
  tryCatch (runner.runChecked order) fun failure => do
    let ending := ending failure
    report [⟨.error, .synchronization, ending.line⟩]
    runner.tell ending.notices
    return ending.code

end Runner

end DocBinder.Project
