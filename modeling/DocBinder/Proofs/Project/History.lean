import DocBinder.Proofs.Project.Selection
import DocBinder.Proofs.Project.Store
import DocBinder.Proofs.Sync.Fresh
import DocBinder.Proofs.Sync.Renewal

/-!
# The history of a project

Between runs, the sources of a project may be changed in any way. A run that is skipped because nothing
has changed trusts the stored state. Through all runs and edits this state tells what the last run
that wrote has left in its document, so that a full run that succeeds ends with the content of all
files that are there, unless files that were written then are there no more.
-/

namespace DocBinder.Project

open Docs
open Sync (Coordinator Session SourceDocument State Outcome Passes finished latest?)

/-- A runner on the service that stores its state in a file. -/
structure Runner.Serves (runner : Runner Service) (statePath : String) : Prop where
  remote : runner.remote = Service.remote
  statePath : runner.statePath = statePath

/-- The state that is stored by a run that begins to write. -/
def Runner.storedBy (runner : Runner Service) (files : FileTree)
    (beginning : Runner.Beginning Service) : State :=
  let (result, ended) := ((runner.coordinator beginning.config files).writeAll beginning.documents
    beginning.documentId).run beginning.session
  runner.stored (rooted beginning.state beginning.documentId) result ended

/-- A run that has written: who ran it, the files that there were, those of them that it was given, and
the builder that it began with. -/
structure Writing where
  runner : Runner Service
  files : FileTree
  taken : List SourceFile
  builder : Placeholder.BuilderState

namespace Writing

/-- The coordinator of a run with a configuration. -/
def coordinator (writing : Writing) (config : Config) : Coordinator Service :=
  writing.runner.coordinator config writing.files

/-- The documents of a run. -/
def documents (writing : Writing) : List SourceDocument :=
  writing.taken.map (SourceFile.document writing.files)

/-- Files would now get the tokens that a run that has written put into the same files. What an uploader,
a renderer and the files that documents refer to give may have changed since then. -/
def Agrees (writing : Writing) (runner : Runner Service) (config : Config) (files : FileTree)
    (found : List SourceFile) : Prop :=
  ∀ file ∈ writing.taken, ∀ other ∈ found, file.content = other.content →
    (writing.coordinator config).Matches (SourceFile.document writing.files file)
      (runner.coordinator config files) (SourceFile.document files other)

/-- Without uploaders, files always get the same tokens. -/
theorem agrees_bare {writing : Writing} {runner : Runner Service}
    (alone : writing.runner.uploader = none) (otherAlone : runner.uploader = none) (config : Config)
    (files : FileTree) {found : List SourceFile} (sorted : Sorted writing.taken)
    (otherSorted : Sorted found) : writing.Agrees runner config files found := by
  intro file isTaken other isFound same
  refine Coordinator.matches_bare alone otherAlone rfl ?_
  have split := (sorted.split file isTaken).splitContent_eq
  rw [same, (otherSorted.split other isFound).splitContent_eq] at split
  exact (Frontmatter.mk.inj split).2.symm

end Writing

/-- What a project has gone through: edits of its sources and runs with one configuration, one after
another, of which the one that wrote last is told. Nobody else changes the state file or a document, and
what is stored is read back. -/
inductive History (statePath : String) (config : Config) :
    Workspace Service → Option Writing → Prop where
  | starts {workspace : Workspace Service} (sound : Service.contract.Sound workspace.remote)
      (unwritten : ∀ state, StateFile.load workspace.files statePath = .ok state →
        state.records = []) : History statePath config workspace none
  | edits {before after : Workspace Service} {last : Option Writing}
      (history : History statePath config before last)
      (state : StateFile.load after.files statePath = StateFile.load before.files statePath)
      (bodies : after.remote.body? = before.remote.body?) : History statePath config after last
  | rests {before : Workspace Service} {last : Option Writing}
      (history : History statePath config before last) {runner : Runner Service}
      (serves : runner.Serves statePath) {order : Order}
      (never : ∀ beginning, ¬ runner.Begins order before beginning) :
      History statePath config ((runner.run order).run before).2 last
  | writes {before : Workspace Service} {last : Option Writing} {others : List SourceFile}
      (history : History statePath config before last) {runner : Runner Service}
      (serves : runner.Serves statePath) {order : Order} {beginning : Runner.Beginning Service}
      (begins : runner.Begins order before beginning) (same : beginning.config = config)
      (orderly : Orderly before.files config)
      (selects : selectFiles before.files config order.selection = .ok others)
      (stores : ∃ files, StateFile.save (runner.storedBy before.files beginning) before.files
          statePath = .ok files ∧
        StateFile.load files statePath = .ok (runner.storedBy before.files beginning)) :
      History statePath config ((runner.run order).run before).2
        (some ⟨runner, before.files, others, before.builder.renewed⟩)

/-! ## What a writing run leaves -/

/-- A run on a document that is there passes through some of its source documents, and through all of
them unless it fails. -/
theorem exists_passes {coordinator : Coordinator Service}
    (serves : coordinator.remote = Service.remote) {documentId : String}
    {session ended : Session Service} (sound : Service.contract.Sound session.remote)
    (there : (session.remote.body? documentId).isSome) {documents : List SourceDocument}
    {result : Except Failure Sync.Run}
    (runs : (coordinator.writeAll documents documentId).run session = (result, ended)) :
    ∃ front rest outcomes last, documents = front ++ rest ∧
      Passes coordinator documentId (coordinator.Sends Service.body? documentId) front session
        outcomes last ∧
      Service.contract.Sound ended.remote ∧
      session.Recalls (finished front outcomes) documentId coordinator.now ended ∧
      (rest = [] → ended.remote.body? documentId = last.remote.body? documentId) ∧
      ∀ run, result = .ok run → rest = [] ∧ run.outcomes = outcomes := by
  rcases coordinator with ⟨remote, languages, setup, chunkSize, now⟩
  change remote = Service.remote at serves
  subst serves
  have meets := @Sync.Coordinator.meets_writeAll_sends Service
    ⟨Service.remote, languages, setup, chunkSize, now⟩ Service.contract documentId session sound there
    documents
  rw [Meets, runs] at meets
  cases result with
  | ok run =>
      rcases meets with ⟨outcomes, last, log, passes, kept, rfl, rfl⟩
      have recalls := passes.recalls fun _ _ _ _ sends => sends.toRecorded
      refine ⟨documents, [], outcomes, last, (List.append_nil _).symm, passes, kept.sound,
        recalls.trans_eq rfl rfl, fun _ => rfl, ?_⟩
      rintro _ ⟨⟩
      exact ⟨rfl, rfl⟩
  | error failure =>
      rcases meets with ⟨front, document, rest, outcomes, middle, rfl, passes, kept, state, written⟩
      have recalls := passes.recalls fun _ _ _ _ sends => sends.toRecorded
      refine ⟨front, document :: rest, outcomes, middle, rfl, passes, kept.sound,
        recalls.trans_eq state written, ?_, ?_⟩
      · rintro ⟨⟩
      · rintro _ ⟨⟩

/-- What the stored state tells: a run has written its documents to an empty document, up to one at
which it was given up, if it was, and those that went through all phases have records. -/
inductive Wrote (config : Config) (writing : Writing) (remote : Service) (state : State) :
    Prop where
  | intro {documentId : String} {session last : Session Service}
      {front rest : List SourceDocument} {outcomes : List Outcome}
      (empty : session.remote.body? documentId = some [BodyUnit.lineFeed])
      (builder : session.builder = writing.builder) (split : writing.documents = front ++ rest)
      (passes : Passes (writing.coordinator config) documentId
        ((writing.coordinator config).Sends Service.body? documentId) front session outcomes last)
      (records : Runner.Records documentId (finished front outcomes) state)
      (reached : rest = [] → remote.body? documentId = last.remote.body? documentId)

theorem Wrote.congr {config : Config} {writing : Writing} {remote other : Service} {state : State}
    (wrote : Wrote config writing remote state) (bodies : other.body? = remote.body?) :
    Wrote config writing other state := by
  rcases wrote with ⟨empty, builder, split, passes, records, reached⟩
  exact .intro empty builder split passes records fun whole => by rw [bodies, reached whole]

section Begins

variable {runner : Runner Service} {statePath : String} (serves : runner.Serves statePath)
  {order : Order} {before after : Workspace Service} {beginning : Runner.Beginning Service}
  (begins : runner.Begins order before beginning)
  (sound : Service.contract.Sound before.remote)

/-- The documents of a run are those of its files. -/
theorem begins_documents (begins : runner.Begins order before beginning)
    {selected : List SourceFile}
    (selects : selectFiles before.files beginning.config order.selection = .ok selected) :
    beginning.documents = selected.map (SourceFile.document before.files) := by
  have documents := begins.selects
  rw [selectDocuments_eq, selects] at documents
  exact (Except.ok.inj documents).symm

include serves begins sound

/-- A run begins to write to a document that is empty. -/
theorem begins_empty : Service.contract.Sound beginning.session.remote ∧
    beginning.session.remote.body? beginning.documentId = some [BodyUnit.lineFeed] ∧
    beginning.session.builder = before.builder.renewed := by
  have preparesWith : (runner.coordinator beginning.config before.files).remote = Service.remote :=
    serves.remote
  have keeps := Sync.Step.Keeps.prepare (runner.coordinator beginning.config before.files)
    beginning.state.rootId beginning.config.title
    (Runner.session before.remote before.builder beginning.state)
  have prepares := @Sync.Coordinator.meets_prepare_renewed
    (runner.coordinator beginning.config before.files)
    (Runner.session before.remote before.builder beginning.state) preparesWith sound
    beginning.state.rootId beginning.config.title
  rw [Meets, begins.prepares] at prepares keeps
  have bodies : beginning.session.remote.body? = Function.update before.remote.body?
    beginning.documentId (some [BodyUnit.lineFeed]) := prepares.1.bodies
  refine ⟨?_, by rw [bodies, Function.update_self], ?_⟩
  · intro documentId body found
    change beginning.session.remote.body? documentId = some body at found
    rw [bodies, Function.update_apply] at found
    split at found
    · cases found
      exact Buffer.wellFormed_ofText []
    · exact sound documentId body found
  · have same : beginning.prepared.builder = before.builder.renewed := keeps.builder
    change beginning.prepared.builder.renewed = _
    rw [same]
    rfl

/-- A run that begins to write leaves what its state tells, and its document holds the content of all
its files if it succeeds. -/
theorem begins_wrote {succeeds : Prop} (goes : runner.Goes order before succeeds after)
    {selected : List SourceFile}
    (selects : selectFiles before.files beginning.config order.selection = .ok selected) :
    Service.contract.Sound after.remote ∧
    Wrote beginning.config ⟨runner, before.files, selected, before.builder.renewed⟩ after.remote
      (runner.storedBy before.files beginning) ∧
    runner.Saves (runner.storedBy before.files beginning) before.files after.files ∧
    (succeeds → ∃ body, after.remote.body? beginning.documentId = some body ∧
      (runner.coordinator beginning.config before.files).Fills before.builder.renewed
        (selected.map (SourceFile.document before.files)) [BodyUnit.lineFeed] body) := by
  rcases begins_empty serves begins sound with ⟨sound, empty, builder⟩
  have there : (beginning.session.remote.body? beginning.documentId).isSome := by rw [empty]; rfl
  rcases runs : ((runner.coordinator beginning.config before.files).writeAll beginning.documents
    beginning.documentId).run beginning.session with ⟨result, ended⟩
  have storedBy : runner.storedBy before.files beginning =
      runner.stored (Runner.rooted beginning.state beginning.documentId) result ended := by
    rw [Runner.storedBy, runs]
  rcases goes.leaves begins runs with ⟨leaves, succeeds⟩
  rcases exists_passes serves.remote sound there runs with
    ⟨front, rest, outcomes, last, split, passes, soundEnd, recalls, whole, ends⟩
  have once : (Runner.rooted beginning.state beginning.documentId).paths.Nodup := by
    change beginning.state.paths.Nodup
    exact StateFile.nodup_of_load begins.loadsState
  have records := Runner.records_stored runner rfl once recalls result
  rw [begins_documents begins selects] at split
  rw [storedBy, leaves.remote]
  refine ⟨soundEnd, .intro empty builder split passes records whole, leaves.saves, ?_⟩
  intro holds
  rcases succeeds holds with ⟨run, rfl, noFailures⟩
  rcases ends run rfl with ⟨rfl, rfl⟩
  have succeeded : ∀ outcome ∈ run.outcomes, outcome.succeeded = true := by
    intro outcome mem
    have status := passes.forall_outcome (fun _ _ _ _ sends => sends.status) outcome mem
    rw [← Bool.not_eq_false]
    intro failed
    have isFailure : outcome ∈ run.failures :=
      List.mem_filter.mpr ⟨mem, beq_iff_eq.mpr (status.mpr failed)⟩
    rw [noFailures] at isFailure
    cases isFailure
  rcases passes.exists_fills succeeded empty with ⟨body, reached, fills⟩
  refine ⟨body, (whole rfl).trans reached, ?_⟩
  rw [split, List.append_nil, ← builder]
  exact fills

end Begins

/-! ## What the stored state tells -/

theorem goes_run {runner : Runner Service} (serves : runner.remote = Service.remote) (order : Order)
    (before : Workspace Service) :
    runner.Goes order before (((runner.run order).run before).1 = .ok .success)
      ((runner.run order).run before).2 := by
  have meets := Runner.meets_run serves order before
  rw [Meets] at meets
  generalize (runner.run order).run before = ending at meets
  rcases ending with ⟨result, after⟩
  cases result with
  | ok code => exact meets.agrees (.refl _) (Except.ok.inj ·)
  | error failure => exact meets.agrees (.refl _) (by rintro ⟨⟩)

/-- Whenever a state is stored, it has no records or tells what was written last. -/
structure Accounts (statePath : String) (config : Config) (workspace : Workspace Service)
    (last : Option Writing) : Prop where
  sound : Service.contract.Sound workspace.remote
  sorted : ∀ writing ∈ last, Sorted writing.taken
  tells : ∀ state, StateFile.load workspace.files statePath = .ok state →
    state.records = [] ∨ ∃ writing ∈ last, Wrote config writing workspace.remote state

/-- Only bodies matter to an account. -/
theorem Accounts.congr {statePath : String} {config : Config} {before after : Workspace Service}
    {last : Option Writing} (accounts : Accounts statePath config before last)
    (state : StateFile.load after.files statePath = StateFile.load before.files statePath)
    (bodies : after.remote.body? = before.remote.body?) : Accounts statePath config after last := by
  refine ⟨fun documentId body found => ?_, accounts.sorted, fun found loads => ?_⟩
  · change after.remote.body? documentId = some body at found
    rw [bodies] at found
    exact accounts.sound documentId body found
  · rw [state] at loads
    exact (accounts.tells found loads).imp_right fun ⟨writing, isLast, wrote⟩ =>
      ⟨writing, isLast, wrote.congr bodies⟩

theorem History.accounts {statePath : String} {config : Config} {workspace : Workspace Service}
    {last : Option Writing} (history : History statePath config workspace last) :
    Accounts statePath config workspace last := by
  induction history with
  | starts sound unwritten =>
      exact ⟨sound, by rintro _ ⟨⟩, fun state loads => .inl (unwritten state loads)⟩
  | edits history state bodies accounts => exact accounts.congr state bodies
  | rests history serves never accounts =>
      cases goes_run serves.remote _ _ with
      | writes begins => exact absurd begins (never _)
      | rests _ files documents =>
          refine accounts.congr (by rw [files]) ?_
          funext documentId
          rw [Service.body?, Service.body?, Service.find?, Service.find?, documents]
  | writes history serves begins same orderly selects stores accounts =>
      subst same
      rcases begins_wrote serves begins accounts.sound (goes_run serves.remote _ _) selects with
        ⟨sound, wrote, saves, _⟩
      refine ⟨sound, ?_, fun state loads => .inr ⟨_, rfl, ?_⟩⟩
      · rintro _ ⟨⟩
        exact sorted_selectFiles orderly selects
      · rcases stores with ⟨files, stored, readBack⟩
        rw [← serves.statePath] at stored readBack loads
        cases saves with
        | saved saves =>
            cases stored.symm.trans saves
            cases readBack.symm.trans loads
            exact wrote
        | refused fails => cases stored.symm.trans fails

/-! ## Skipped runs -/

theorem length_finished_le (documents : List SourceDocument) (outcomes : List Outcome) :
    (finished documents outcomes).length ≤ outcomes.countP Outcome.succeeded := by
  induction documents generalizing outcomes with
  | nil => exact Nat.zero_le _
  | cons document rest step =>
      cases outcomes with
      | nil => exact Nat.zero_le _
      | cons outcome others =>
          have further := step others
          rw [Sync.finished_cons, List.countP_cons]
          split
          · rw [List.length_cons]
            omega
          · omega

/-- When finished documents have the paths of all that were to be written, these are all finished. -/
theorem finished_all {front rest : List SourceDocument} {outcomes : List Outcome}
    (length : outcomes.length = front.length)
    (differ : ((front ++ rest).map (·.path)).Nodup)
    (all : ∀ document ∈ front ++ rest,
      document.path ∈ (finished front outcomes).map (·.path)) :
    rest = [] ∧ ∀ outcome ∈ outcomes, outcome.succeeded = true := by
  have subset : (front ++ rest).map (·.path) ⊆ (finished front outcomes).map (·.path) := by
    intro path mem
    rcases List.mem_map.mp mem with ⟨document, isDocument, rfl⟩
    exact all document isDocument
  have many := (List.subperm_of_subset differ subset).length_le
  have few := length_finished_le front outcomes
  have most := @List.countP_le_length _ Outcome.succeeded outcomes
  rw [List.length_map, List.length_map, List.length_append] at many
  refine ⟨List.eq_nil_of_length_eq_zero (by omega), List.countP_eq_length.mp (by omega)⟩

theorem mem_of_finished {documents : List SourceDocument} {outcomes : List Outcome}
    {document : SourceDocument} (mem : document ∈ finished documents outcomes) :
    document ∈ documents := by
  rcases List.mem_filterMap.mp mem with ⟨pair, isPair, isDocument⟩
  split at isDocument
  · cases isDocument
    exact (List.of_mem_zip isPair).1
  · cases isDocument

/-- A document whose record has its digest was finished with it. -/
theorem Runner.Records.exists_finished {documentId : String} {documents : List SourceDocument}
    {state : State} (records : Runner.Records documentId documents state) {path hash : String}
    (same : state.hash? path = some hash) :
    ∃ document ∈ documents, document.path = path ∧ document.hash = hash := by
  rw [State.hash?_eq, records.entry, Option.map_map, Option.map_eq_some_iff] at same
  rcases same with ⟨document, isLatest, isHash⟩
  have mem := List.mem_of_find?_eq_some isLatest
  have isPath := List.find?_some isLatest
  exact ⟨document, List.mem_reverse.mp mem, beq_iff_eq.mp isPath, isHash⟩

/-- Where the stored state has the digests of all files that are there, and all files are there that
were written last, these are the same files in the same order, and all of them went through all
phases. -/
theorem Wrote.complete {config : Config} {writing : Writing} {files : FileTree}
    {scanned : List SourceFile} {remote : Service} {state : State}
    (wrote : Wrote config writing remote state) (sorted : Sorted writing.taken)
    (otherSorted : Sorted scanned)
    (unchanged : ∀ file ∈ scanned,
      state.hash? file.relativePath = some (SourceFile.document files file).hash)
    (stays : ∀ file ∈ writing.taken, file.relativePath ∈ scanned.map (·.relativePath))
    (apart : ∀ file ∈ writing.taken, ∀ other ∈ scanned,
      (SourceFile.document writing.files file).hash = (SourceFile.document files other).hash →
        file.text = other.text) :
    writing.taken.map SourceFile.content = scanned.map SourceFile.content ∧
    ∃ documentId body, state.rootId = some documentId ∧ remote.body? documentId = some body ∧
      (writing.coordinator config).Fills writing.builder writing.documents [BodyUnit.lineFeed] body := by
  rcases wrote with ⟨empty, builder, split, passes, records, reached⟩
  rename_i documentId session last front rest outcomes
  -- What is there was taken and finished, and what was taken is there.
  have found : ∀ file ∈ scanned, ∃ document ∈ finished front outcomes,
      document.path = file.relativePath ∧
        ∃ other ∈ writing.taken, other.content = file.content := by
    intro file mem
    rcases records.exists_finished (unchanged file mem) with ⟨document, isFinished, isPath, isHash⟩
    have isTaken : document ∈ writing.documents :=
      split ▸ List.mem_append_left _ (mem_of_finished isFinished)
    rcases List.mem_map.mp isTaken with ⟨other, otherMem, rfl⟩
    exact ⟨_, isFinished, isPath, other, otherMem,
      Prod.ext isPath (apart other otherMem file mem isHash)⟩
  have contents : ∀ content, content ∈ writing.taken.map SourceFile.content ↔
      content ∈ scanned.map SourceFile.content := by
    intro content
    constructor
    · intro mem
      rcases List.mem_map.mp mem with ⟨file, isTaken, rfl⟩
      rcases List.mem_map.mp (stays file isTaken) with ⟨other, isScanned, samePath⟩
      rcases found other isScanned with ⟨_, _, _, same, sameTaken, sameContent⟩
      have isSame : same = file := List.inj_on_of_nodup_map sorted.differ sameTaken isTaken
        ((Prod.mk.inj sameContent).1.trans samePath)
      exact List.mem_map.mpr ⟨other, isScanned, by rw [← sameContent, isSame]⟩
    · intro mem
      rcases List.mem_map.mp mem with ⟨file, isScanned, rfl⟩
      rcases found file isScanned with ⟨_, _, _, other, isTaken, sameContent⟩
      exact List.mem_map.mpr ⟨other, isTaken, sameContent⟩
  have whole : rest = [] ∧ ∀ outcome ∈ outcomes, outcome.succeeded = true := by
    refine finished_all passes.length_eq ?_ ?_
    · rw [← split, Writing.documents, List.map_map]
      exact sorted.differ
    · intro document mem
      rw [← split] at mem
      rcases List.mem_map.mp mem with ⟨file, isTaken, rfl⟩
      rcases List.mem_map.mp (stays file isTaken) with ⟨other, isScanned, samePath⟩
      rcases found other isScanned with ⟨document, isFinished, isPath, _⟩
      exact List.mem_map.mpr ⟨document, isFinished, isPath.trans samePath⟩
  rcases whole with ⟨rfl, succeeded⟩
  rcases passes.exists_fills succeeded empty with ⟨body, isBody, fills⟩
  refine ⟨sorted.contents_eq otherSorted contents, documentId, body, records.root,
    (reached rfl).trans isBody, ?_⟩
  rw [builder] at fills
  rw [split, List.append_nil]
  exact fills

/-- Files with the same contents in the same order, which would now get the tokens that they got then,
fill a document as they did then. -/
theorem Writing.Agrees.fills {writing : Writing} {runner : Runner Service} {config : Config}
    {files : FileTree} {found : List SourceFile}
    (agrees : writing.Agrees runner config files found)
    (contents : writing.taken.map SourceFile.content = found.map SourceFile.content)
    {buffer shown : Buffer}
    (fills : (writing.coordinator config).Fills writing.builder writing.documents buffer shown) :
    (runner.coordinator config files).Fills writing.builder
      (found.map (SourceFile.document files)) buffer shown := by
  have languages : (writing.coordinator config).diagramLanguages =
    (runner.coordinator config files).diagramLanguages := rfl
  refine fills.congr languages rfl ?_
  rw [← List.forall₂_eq_eq_eq, List.forall₂_map_left_iff, List.forall₂_map_right_iff,
    List.forall₂_iff_zip] at contents
  rw [Writing.documents, List.forall₂_map_left_iff, List.forall₂_map_right_iff, List.forall₂_iff_zip]
  refine ⟨contents.1, fun {file other} mem => ?_⟩
  rcases List.of_mem_zip mem with ⟨isTaken, isFound⟩
  exact agrees file isTaken other isFound (contents.2 mem)

/-- Whatever was edited and run before, with any faults, a run on all files that succeeds, and finds
any, ends with a document that holds what is made of the files that it finds: the run's own document
if it has written, and the stored one if it was skipped and no file that was written last is there
no more. What is made of files is what the last run that wrote makes of them, which is the same as long
as they would get the same tokens. -/
theorem syncs_scanned {statePath : String} {config : Config} {before : Workspace Service}
    {last : Option Writing} (history : History statePath config before last)
    {runner : Runner Service} (serves : runner.Serves statePath) {order : Order}
    (all : given order.selection.file = none ∧ given order.selection.directory = none)
    (writes : order.isPreview = false)
    (configured : Config.load before.files runner.configPath = .ok config)
    {scanned : List SourceFile} {log : List Log.Line}
    (scans : scan before.files config (some config.docsDirectory) = .ok (scanned, log))
    (nonempty : scanned ≠ []) (orderly : Orderly before.files config)
    (apart : ∀ writing ∈ last, ∀ file ∈ writing.taken, ∀ other ∈ scanned,
      Digest.ofString (String.ofList file.text) = Digest.ofString (String.ofList other.text) →
        file.text = other.text)
    (succeeds : ((runner.run order).run before).1 = .ok .success) :
    let after := ((runner.run order).run before).2
    let coordinator := runner.coordinator config before.files
    let documents := scanned.map (SourceFile.document before.files)
    (∀ beginning, runner.Begins order before beginning →
      ∃ body, after.remote.body? beginning.documentId = some body ∧
        coordinator.Yields before.builder.renewed documents body) ∧
    ((∀ beginning, ¬ runner.Begins order before beginning) →
      ∃ writing ∈ last,
        (∀ file ∈ writing.taken, file.relativePath ∈ scanned.map (·.relativePath)) →
        writing.Agrees runner config before.files scanned →
        ∃ state documentId body, StateFile.load after.files statePath = .ok state ∧
          state.rootId = some documentId ∧ after.remote.body? documentId = some body ∧
          coordinator.Yields writing.builder documents body) := by
  intro after coordinator documents
  have goes : runner.Goes order before _ after := goes_run serves.remote order before
  have accounts := history.accounts
  have selects := selectFiles_all all scans
  constructor
  · intro beginning begins
    have same : beginning.config = config := Except.ok.inj (begins.loadsConfig.symm.trans configured)
    subst same
    rcases begins_wrote serves begins accounts.sound goes selects with ⟨_, _, _, ends⟩
    rcases ends succeeds with ⟨body, isBody, fills⟩
    exact ⟨body, isBody, fills.yields serves.remote⟩
  · intro never
    cases goes with
    | writes begins => exact absurd begins (never _)
    | rests _ sameFiles sameDocuments _ ends =>
        rcases ends succeeds with ⟨otherConfig, state, selected, loadsConfig, loads, gives, idle⟩
        cases configured.symm.trans loadsConfig
        rw [selectDocuments_eq, selects] at gives
        cases gives
        rw [serves.statePath] at loads
        have unchanged : ∀ file ∈ scanned, state.hash? file.relativePath =
            some (SourceFile.document before.files file).hash := by
          rcases idle with isEmpty | isUnchanged | isPreview
          · exact absurd (List.map_eq_nil_iff.mp isEmpty) nonempty
          · intro file mem
            have same := List.filter_eq_nil_iff.mp isUnchanged _ (List.mem_map_of_mem mem)
            rwa [bne_iff_ne, not_not] at same
          · rw [writes] at isPreview
            cases isPreview
        rcases accounts.tells state loads with noRecords | ⟨writing, isLast, wrote⟩
        · rcases List.exists_mem_of_ne_nil scanned nonempty with ⟨file, mem⟩
          have missing := unchanged file mem
          rw [State.hash?, noRecords] at missing
          cases missing
        · refine ⟨writing, isLast, fun stays agrees => ?_⟩
          rcases wrote.complete (accounts.sorted writing isLast) (sorted_scan orderly scans)
            unchanged stays (apart writing isLast) with ⟨contents, documentId, body, root, isBody, fills⟩
          refine ⟨state, documentId, body, by rw [sameFiles, loads], root, ?_,
            (agrees.fills contents fills).yields serves.remote⟩
          rw [← isBody, Service.body?, Service.body?, Service.find?, Service.find?, sameDocuments]

/-! ## A project with one document -/

theorem exists_single_of_scan {files : FileTree} {config : Config} {content : String × Text}
    (scans : ((scan files config (some config.docsDirectory)).toOption.map
      fun (found, _) => found.map SourceFile.content) = some [content]) :
    ∃ file log, scan files config (some config.docsDirectory) = .ok ([file], log) ∧
      file.content = content := by
  rcases Option.map_eq_some_iff.mp scans with ⟨⟨found, log⟩, isScan, contents⟩
  rcases List.map_eq_singleton_iff.mp contents with ⟨file, rfl, same⟩
  exact ⟨file, log, Except.toOption_eq_some.mp isScan, same⟩

theorem orderly_single {files : FileTree} {config : Config} {file : SourceFile}
    {log : List Log.Line}
    (scans : scan files config (some config.docsDirectory) = .ok ([file], log))
    (isNumber : (SourceFile.contentKey file.content).position ≠ .nan) : Orderly files config := by
  constructor
  · intro found otherLog also
    cases scans.symm.trans also
    exact List.nodup_singleton _
  · intro found otherLog also other mem
    cases scans.symm.trans also
    rw [(isSplit_of_scan scans other mem).key_eq, List.mem_singleton.mp mem]
    exact isNumber

/-- A run on all files. -/
def Order.all : Order :=
  ⟨false, false, ⟨none, none⟩⟩

namespace Runner

/-- A project with one document after its first run. -/
def writtenOnce : Workspace Service :=
  ((plain.run .all).run unwritten).2

/-- The configuration of a project without settings of its own. -/
def plainConfig : Config :=
  (Config.load unwritten.files plain.configPath).toOption.getD default

/-- Whether the state that a run stores is read back. -/
def readsBack (runner : Runner Service) (files : FileTree) (beginning : Beginning Service) : Bool :=
  ((StateFile.save (runner.storedBy files beginning) files runner.statePath).toOption.bind fun stored =>
    (StateFile.load stored runner.statePath).toOption) == some (runner.storedBy files beginning)

theorem exists_of_readsBack {runner : Runner Service} {files : FileTree}
    {beginning : Beginning Service} (reads : runner.readsBack files beginning = true) :
    ∃ stored, StateFile.save (runner.storedBy files beginning) files runner.statePath = .ok stored ∧
      StateFile.load stored runner.statePath = .ok (runner.storedBy files beginning) := by
  rw [readsBack, beq_iff_eq, Option.bind_eq_some_iff] at reads
  rcases reads with ⟨stored, saves, loads⟩
  exact ⟨stored, Except.toOption_eq_some.mp saves, Except.toOption_eq_some.mp loads⟩

/-- The first run of a project stores its state, and the second one finds nothing to write. -/
theorem runs_twice :
    (plain.beginning? .all unwritten).any (fun beginning =>
      beginning.config == plainConfig && plain.readsBack unwritten.files beginning) = true ∧
    (Config.load writtenOnce.files plain.configPath).toOption = some plainConfig ∧
    ((scan unwritten.files plainConfig (some plainConfig.docsDirectory)).toOption.map
      fun (found, _) => found.map SourceFile.content) = some [("a.md", "a\n".toList)] ∧
    ((scan writtenOnce.files plainConfig (some plainConfig.docsDirectory)).toOption.map
      fun (found, _) => found.map SourceFile.content) = some [("a.md", "a\n".toList)] ∧
    (plain.beginning? .all writtenOnce).isNone = true ∧
    ((plain.run .all).run writtenOnce).1.toOption = some .success := by
  decide +kernel

end Runner

open Runner in
/-- The second run of a project is skipped, and its document holds what is made of its file. -/
theorem syncs_scanned_writtenOnce :
    ∃ writing scanned log state documentId body,
      History plain.statePath plainConfig writtenOnce (some writing) ∧
      scan writtenOnce.files plainConfig (some plainConfig.docsDirectory) = .ok (scanned, log) ∧
      StateFile.load ((plain.run .all).run writtenOnce).2.files plain.statePath = .ok state ∧
      state.rootId = some documentId ∧
      ((plain.run .all).run writtenOnce).2.remote.body? documentId = some body ∧
      (plain.coordinator plainConfig writtenOnce.files).Yields writing.builder
        (scanned.map (SourceFile.document writtenOnce.files)) body := by
  rcases runs_twice with ⟨first, loadsConfig, firstScan, secondScan, skipped, succeeds⟩
  rcases (Option.any_eq_true _ _).mp first with ⟨beginning, isBeginning, checks⟩
  rw [Bool.and_eq_true, beq_iff_eq] at checks
  rcases exists_single_of_scan firstScan with ⟨file, _, firstScans, isContent⟩
  rcases exists_single_of_scan secondScan with ⟨other, log, scans, otherContent⟩
  have sameContent := isContent.trans otherContent.symm
  have isNumber : (SourceFile.contentKey ("a.md", "a\n".toList)).position ≠ .nan := by
    decide +kernel
  have firstOrderly := orderly_single firstScans (isContent ▸ isNumber)
  have orderly := orderly_single scans (otherContent ▸ isNumber)
  have serves : plain.Serves plain.statePath := ⟨rfl, rfl⟩
  have starts : History plain.statePath plainConfig unwritten none :=
    .starts (Service.reachable_ofTexts [] .none).sound fun state loads => by
      cases loads
      rfl
  have history : History plain.statePath plainConfig writtenOnce
      (some ⟨plain, unwritten.files, [file], unwritten.builder.renewed⟩) :=
    starts.writes serves (beginning?_eq_some.mp isBeginning) checks.1 firstOrderly
      (selectFiles_all ⟨rfl, rfl⟩ firstScans) (exists_of_readsBack checks.2)
  have never (beginning : Beginning Service) : ¬ plain.Begins .all writtenOnce beginning := by
    intro begins
    rw [beginning?_eq_some.mpr begins] at skipped
    cases skipped
  rcases (syncs_scanned history serves ⟨rfl, rfl⟩ rfl (Except.toOption_eq_some.mp loadsConfig) scans
    (List.cons_ne_nil _ _) orderly (by
      rintro _ ⟨⟩
      simp only [List.mem_singleton, forall_eq]
      exact fun _ => (Prod.mk.inj sameContent).2) (Except.toOption_eq_some.mp succeeds)).2 never with
    ⟨_, ⟨⟩, yields⟩
  rcases yields (by
      simp only [List.mem_singleton, forall_eq, List.map_cons, List.map_nil]
      exact (Prod.mk.inj sameContent).1)
    (Writing.agrees_bare rfl rfl _ _ (history.accounts.sorted _ rfl)
      (sorted_scan orderly scans)) with
    ⟨state, documentId, body, loads, root, isBody, yields⟩
  exact ⟨_, _, log, state, documentId, body, history, scans, loads, root, isBody, yields⟩

namespace Runner

/-- A project with two documents that were never written. -/
def unwrittenTwo : Workspace Service :=
  { unwritten with files :=
      unwritten.files.put ["home", "docs", "b.md"] (.file "b\n".toUTF8) }

/-- The project with two documents after its first run. -/
def writtenTwo : Workspace Service :=
  ((plain.run .all).run unwrittenTwo).2

/-- The project with two documents after its first run, when one of them has been taken away. -/
def takenAway : Workspace Service :=
  { writtenTwo with files := writtenTwo.files.remove "docs/b.md" }

/-- The project with two documents after its first run, when both have been taken away. -/
def emptied : Workspace Service :=
  { takenAway with files := takenAway.files.remove "docs/a.md" }

/-- A run on all files succeeds and leaves a body, but the files would make another one. -/
def Misses (workspace : Workspace Service) (body fresh : String) : Prop :=
  let ran := (plain.run .all).run workspace
  ran.1.toOption = some .success ∧
    ((StateFile.load ran.2.files plain.statePath).toOption.bind fun state =>
      state.rootId.bind ran.2.remote.body?) = some (body.toList.map .char) ∧
    ((scan workspace.files plainConfig (some plainConfig.docsDirectory)).toOption.bind
      fun found => (plain.coordinator plainConfig workspace.files).fresh .initial
        (found.1.map (SourceFile.document workspace.files))) = some (fresh.toList.map .char)

instance (workspace : Workspace Service) (body fresh : String) :
    Decidable (Misses workspace body fresh) :=
  inferInstanceAs (Decidable (_ ∧ _ ∧ _))

/-- Documents that were taken away are not missed: the next run is skipped, or finds nothing, and the
remote document still holds their content. -/
theorem not_syncs_scanned :
    Misses takenAway "a\nb\n\n" "a\n\n" ∧ Misses emptied "a\nb\n\n" "\n" := by
  decide +kernel

end Runner

end DocBinder.Project
