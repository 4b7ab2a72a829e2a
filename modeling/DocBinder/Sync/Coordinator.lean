import DocBinder.Docs.Remote
import DocBinder.Docs.Snapshot
import DocBinder.Markdown.Classify
import DocBinder.Placeholder.Build
import DocBinder.Resolve.Cells
import DocBinder.Resolve.Formatting
import DocBinder.Sync.Outcome
import DocBinder.Sync.State

/-!
# Writing documents

Each source document goes through four phases: its content is appended to the remote document, its
tables are filled, its texts are formatted, and its tokens are replaced. Each phase sends its
requests and then fetches the document again, so that the next one sees the positions that the
service has assigned. A failure of the remote ends the current document only. Before a run the
remote document is made or cleared.
-/

namespace DocBinder.Sync

open Docs

/-- A Markdown document to be written. -/
structure SourceDocument where
  path : String
  title : String
  markdown : Text
  hash : String
  directory : Option String
deriving DecidableEq, Repr, Inhabited

/-- What a document would come to. -/
structure Preview where
  path : String
  title : String
  requests : Nat
  directives : Nat
  tables : Nat
  links : Nat
  images : Nat
  blocksDropped : Nat
deriving DecidableEq, Repr, Inhabited

/-- What a run works with. The time is the one that records are stamped with. -/
structure Coordinator (σ : Type) where
  remote : Remote σ
  diagramLanguages : List Text
  setup : Placeholder.Setup
  chunkSize : Nat
  now : String

/-- What a run changes: the remote, the builder of tokens, the stored state if there is one, the
paths of the documents that were written, and the log. -/
structure Session (σ : Type) where
  remote : σ
  builder : Placeholder.BuilderState
  state : Option State
  written : List String
  log : List Log.Line

/-- A step of a run, which keeps what was done before a failure. -/
abbrev Step (σ α : Type) := ExceptT Failure (StateM (Session σ)) α

/-- A step on one document, whose outcome so far is kept beside the session. -/
abbrev DocumentStep (σ α : Type) := ExceptT Failure (StateM (Session σ × Outcome)) α

variable {σ : Type}

/-- Add lines to the log. -/
def Step.report (lines : List Log.Line) : Step σ Unit :=
  modify fun session => { session with log := session.log ++ lines }

/-- A line of the log of a run. -/
def line (level : Log.Level) (message : String) : Log.Line :=
  ⟨level, .coordinator, message⟩

/-- Call the remote. -/
def Step.call {α : Type} (operation : Call σ α) : Step σ α :=
  ExceptT.mk fun session =>
    let (result, remote) := operation.run session.remote
    (result, { session with remote := remote })

/-- Take a step and keep what it fails with. -/
def Step.attempt {α : Type} (step : Step σ α) : Step σ (Except Failure α) :=
  ExceptT.mk fun session =>
    let (result, session) := step.run session
    (.ok result, session)

/-- A step of the run as part of the work on a document. -/
def DocumentStep.ofStep {α : Type} (step : Step σ α) : DocumentStep σ α :=
  ExceptT.mk fun (session, outcome) =>
    let (result, session) := step.run session
    (result, (session, outcome))

/-- Add lines to the log. -/
def DocumentStep.report (lines : List Log.Line) : DocumentStep σ Unit :=
  .ofStep (Step.report lines)

/-- Change the outcome of the current document. -/
def DocumentStep.update (change : Outcome → Outcome) : DocumentStep σ Unit :=
  modify fun (session, outcome) => (session, change outcome)

/-- Change what is counted for the current document. -/
def DocumentStep.count (change : Stats → Stats) : DocumentStep σ Unit :=
  .update fun outcome => { outcome with stats := change outcome.stats }

/-- Note that the current document has reached a phase. -/
def DocumentStep.reach (phase : Phase) : DocumentStep σ Unit :=
  .update fun outcome => { outcome with phase := phase }

namespace Coordinator

/-! ## Preparing the remote document -/

/-- The known document, unless it does not exist any more. -/
def fetchKnown (coordinator : Coordinator σ) (documentId : String) : Step σ (Option Value) := do
  match ← Step.attempt (Step.call (coordinator.remote.fetch documentId)) with
  | .ok document => return some document
  | .error failure =>
      if failure.cause.isDocumentNotFound then
        Step.report
          [line .warning s!"Document {documentId} no longer exists, creating a new one"]
        return none
      else throw failure

/-- Make the remote document exist and clear its body. -/
def prepareOnce (coordinator : Coordinator σ) (known : Option String) (title : String) :
    Step σ String := do
  let found ← match known.filter fun documentId => !documentId.isEmpty with
    | some documentId => do
        pure ((← coordinator.fetchKnown documentId).map fun document => (documentId, document))
    | none => pure none
  let (documentId, document) ← match found with
    | some found => pure found
    | none => do
        let document ← Step.call (coordinator.remote.create title)
        match document.get? "documentId" with
        | some documentId => pure (documentId.text, document)
        | none => throw (Failure.foreign "KeyError" "documentId")
  let stop := (Snapshot.ofDocument document).endIndex
  if stop > 2 then
    Step.report [line .info s!"Clearing {stop - 2} character(s) from {documentId}"]
    Step.call (coordinator.remote.update documentId [.deleteRange 1 (stop - 1)])
  return documentId

/-- Forget the access tokens and ask for new ones. -/
def reauthenticate (coordinator : Coordinator σ) : Step σ Unit := do
  Step.call coordinator.remote.clearTokens
  Step.call coordinator.remote.authenticate
  Step.call coordinator.remote.reset

/-- Make the remote document exist and clear its body. When access is denied, new access is asked
for and the preparation is tried once more. -/
def prepare (coordinator : Coordinator σ) (known : Option String) (title : String) :
    Step σ String :=
  tryCatch (coordinator.prepareOnce known title) fun failure => do
    if failure.cause.isPermissionDenied then
      Step.report [line .warning
        s!"{failure.message}; re-authenticating and retrying initialization once"]
      coordinator.reauthenticate
      coordinator.prepareOnce known title
    else throw failure

/-! ## Writing one document -/

/-- Fetch the remote document. -/
def snapshot (coordinator : Coordinator σ) (documentId : String) : DocumentStep σ Snapshot := do
  return Snapshot.ofDocument (← .ofStep (Step.call (coordinator.remote.fetch documentId)))

/-- Send a batch, if it holds any request, and count its requests. -/
def submit (coordinator : Coordinator σ) (documentId : String) (requests : List Request) :
    DocumentStep σ Unit := do
  if requests.isEmpty then return
  .ofStep (Step.call (coordinator.remote.update documentId requests))
  DocumentStep.count fun stats => { stats with requests := stats.requests + requests.length }

/-- Put tokens into a document. -/
def buildTokens (coordinator : Coordinator σ) (document : SourceDocument) :
    Step σ Placeholder.Built :=
  ExceptT.mk fun session =>
    let (result, builder) := Placeholder.build coordinator.setup document.markdown
      document.directory { session.builder with log := [] }
    (result, { session with builder := builder, log := session.log ++ builder.log })

/-- Compile Markdown. -/
def compileMarkdown (coordinator : Coordinator σ) (markdown : Text) : Step σ Compiled := do
  let blocks := Markdown.classify coordinator.diagramLanguages markdown
  Step.report (Markdown.classifyLog coordinator.diagramLanguages markdown ++ compileLog blocks)
  return compile blocks

/-- Send a chunk of replacements. A refused chunk with images is sent again with its images as
text. -/
def submitChunk (coordinator : Coordinator σ) (documentId : String) (chunk : List Replacement) :
    DocumentStep σ Unit := do
  let images := chunk.countP Replacement.isImage
  tryCatch
    (do
      coordinator.submit documentId (chunkRequests chunk)
      DocumentStep.count fun stats =>
        { stats with imagesInserted := stats.imagesInserted + images })
    fun failure => do
      if failure.cause.isInvalidCredentials || failure.cause.isPermissionDenied
          || !failure.cause.isDocs || images == 0 then throw failure
      else
        DocumentStep.report [line .warning
          (s!"Chunk of {chunk.length} replacement(s) rejected ({failure.message}); "
            ++ "retrying with images as plain text")]
        coordinator.submit documentId (chunkFallback chunk)
        DocumentStep.count fun stats =>
          { stats with imagesFallback := stats.imagesFallback + images }
  DocumentStep.count fun stats =>
    { stats with linksResolved := stats.linksResolved + (chunk.length - images) }

/-- Send chunks one after another. -/
def submitChunks (coordinator : Coordinator σ) (documentId : String) :
    List (List Replacement) → DocumentStep σ Unit
  | [] => return
  | chunk :: rest => do
      coordinator.submitChunk documentId chunk
      coordinator.submitChunks documentId rest

/-- Replace the tokens of a document. -/
def replaceTokens (coordinator : Coordinator σ) (documentId : String)
    (built : Placeholder.Built) (snapshot : Snapshot) : DocumentStep σ Unit := do
  let plan := planReplacements built.links built.images snapshot
  DocumentStep.report plan.log
  DocumentStep.count fun stats => { stats with
    placeholdersUnresolved :=
      built.links.length + built.images.length - plan.replacements.length }
  coordinator.submitChunks documentId (chunks coordinator.chunkSize plan.replacements)

/-- Append the content of a document. Gives the index at which it begins and the number of tables
before it. -/
def applyContent (coordinator : Coordinator σ) (documentId path : String) (compiled : Compiled) :
    DocumentStep σ (Nat × Nat) := do
  let before ← coordinator.snapshot documentId
  DocumentStep.report [line .info s!"Phase 1: applying content for {path}"]
  coordinator.submit documentId compiled.requests
  DocumentStep.reach .contentApplied
  return (max 1 (before.endIndex - 1), before.tables.length)

/-- Fill the tables of a document. -/
def populateTables (coordinator : Coordinator σ) (documentId : String) (compiled : Compiled)
    (existing : Nat) : DocumentStep σ Unit := do
  let snapshot ← coordinator.snapshot documentId
  DocumentStep.report
    [line .info s!"Phase 2: populating {compiled.tables.length} table(s)"]
  let plan := locateCells compiled.tables snapshot existing
  DocumentStep.report plan.log
  coordinator.submit documentId (cellRequests plan.inserts)
  DocumentStep.count fun stats => { stats with cellsPopulated := plan.inserts.length }
  DocumentStep.reach .tablesPopulated

/-- Format the texts of a document whose content begins at an index. -/
def format (coordinator : Coordinator σ) (documentId : String) (compiled : Compiled)
    (start : Nat) : DocumentStep σ Unit := do
  let snapshot ← coordinator.snapshot documentId
  DocumentStep.report
    [line .info s!"Phase 3: formatting {compiled.directives.length} element(s)"]
  let formatting := resolve compiled.directives snapshot start (some compiled.offsets) none
  DocumentStep.report formatting.log
  match formatting.resolved with
  | .error fault => throw (Failure.badValue fault.message)
  | .ok resolved =>
      coordinator.submit documentId (formattingRequests resolved)
      DocumentStep.count fun stats => { stats with
        directivesResolved := resolved.length
        directivesSkipped := compiled.directives.length - resolved.length }
      DocumentStep.reach .formatted

/-- Take a document through all phases. -/
def writePhases (coordinator : Coordinator σ) (document : SourceDocument) (documentId : String)
    (built : Placeholder.Built) : DocumentStep σ Unit := do
  let compiled ← .ofStep (coordinator.compileMarkdown built.markdown)
  DocumentStep.count fun stats => { stats with blocksDropped := compiled.skipped.length }
  let (start, existing) ← coordinator.applyContent documentId document.path compiled
  coordinator.populateTables documentId compiled existing
  coordinator.format documentId compiled start
  let snapshot ← coordinator.snapshot documentId
  DocumentStep.report [line .info
    s!"Phase 4: resolving {built.links.length} link(s) and {built.images.length} image(s)"]
  coordinator.replaceTokens documentId built snapshot
  DocumentStep.reach .linksResolved
  DocumentStep.reach .done

/-- The outcome of a document that failed. -/
def failDocument (document : SourceDocument) (outcome : Outcome) (failure : Failure) :
    Step σ Outcome := do
  Step.report [line .error
    s!"Document {document.path} failed after {outcome.phase.name}: {failure.message}"]
  return outcome.fail failure.message

/-- Take a document through the phases from its outcome so far. A failure of the remote becomes
part of the outcome, unless the credentials are at fault. -/
def writeBuilt (coordinator : Coordinator σ) (document : SourceDocument) (documentId : String)
    (built : Placeholder.Built) : Step σ Outcome := do
  let (result, outcome) ← (ExceptT.mk fun session =>
    let (result, (session, outcome)) := (coordinator.writePhases document documentId built).run
      (session, Outcome.start document.path document.title)
    (.ok (result, outcome), session) : Step σ (Except Failure Unit × Outcome))
  match result with
  | .ok () => return outcome
  | .error failure =>
      if failure.cause.isDocs && !failure.cause.isInvalidCredentials then
        failDocument document outcome failure
      else throw failure

/-- Write a document. Whatever goes wrong before it reaches the remote fails this document only,
unless the credentials are at fault. -/
def writeDocument (coordinator : Coordinator σ) (document : SourceDocument)
    (documentId : String) : Step σ Outcome := do
  match ← Step.attempt (coordinator.buildTokens document) with
  | .ok built => coordinator.writeBuilt document documentId built
  | .error failure =>
      if failure.cause.isInvalidCredentials then throw failure
      else failDocument document (Outcome.start document.path document.title) failure

/-! ## Writing all documents -/

/-- The digest that the stored state has for a document. -/
def previousHash (document : SourceDocument) : Step σ (Option String) := do
  return (← get).state.bind (·.hash? document.path)

/-- Write a document, classify what became of it, and remember that it was written. -/
def recordDocument (coordinator : Coordinator σ) (document : SourceDocument)
    (documentId : String) : Step σ Outcome := do
  let previous ← previousHash document
  let outcome ← coordinator.writeDocument document documentId
  if outcome.succeeded then
    let remember (state : State) : State :=
      state.recordSynced document.path document.hash documentId coordinator.now
    modify fun session => { session with
      state := session.state.map remember
      written := session.written ++ [document.path] }
    return { outcome with status := some (if previous.isNone then .created else .updated) }
  else return { outcome with status := some .failed }

/-- Write documents in order, after those that a run has already gone through. -/
def writeFrom (coordinator : Coordinator σ) (documentId : String) (run : Run) :
    List SourceDocument → Step σ Run
  | [] => do
      Step.report [line .info
        (s!"Run finished: {run.count .created} created, {run.count .updated} updated, "
          ++ s!"{run.count .skipped} skipped, {run.count .failed} failed")]
      return run
  | document :: rest => do
      let outcome ← coordinator.recordDocument document documentId
      coordinator.writeFrom documentId (run.record outcome) rest

/-- Write documents in order to the remote document. -/
def writeAll (coordinator : Coordinator σ) (documents : List SourceDocument)
    (documentId : String) : Step σ Run :=
  coordinator.writeFrom documentId ⟨some documentId, []⟩ documents

/-- What a document would come to, without the remote, the uploader and the renderer. -/
def preview (coordinator : Coordinator σ) (document : SourceDocument) : Step σ Preview := do
  let setup : Placeholder.Setup := { coordinator.setup with uploader := none, renderer := none }
  let (result, builder) := Placeholder.build setup document.markdown document.directory .initial
  Step.report builder.log
  match result with
  | .error failure => throw failure
  | .ok built =>
      let compiled ← coordinator.compileMarkdown built.markdown
      return ⟨document.path, document.title, compiled.requests.length,
        compiled.directives.length, compiled.tables.length, built.links.length,
        built.images.length, compiled.skipped.length⟩

end Coordinator

end DocBinder.Sync
