import DocBinder.Digest.Sha256
import DocBinder.Exchange.Failure
import DocBinder.Sync.Coordinator

/-!
# Exchanged runs

The forms of source documents, outcomes, runs, previews and the stored state.
-/

namespace DocBinder.Exchange

/-- What was counted for a document. -/
def statsValue (stats : Sync.Stats) : Value :=
  .record [("requests", natValue stats.requests),
    ("directives_resolved", natValue stats.directivesResolved),
    ("directives_skipped", natValue stats.directivesSkipped),
    ("cells_populated", natValue stats.cellsPopulated),
    ("links_resolved", natValue stats.linksResolved),
    ("images_inserted", natValue stats.imagesInserted),
    ("images_fallback", natValue stats.imagesFallback),
    ("placeholders_unresolved", natValue stats.placeholdersUnresolved),
    ("blocks_dropped", natValue stats.blocksDropped)]

/-- Read what was counted for a document. -/
def readStats (value : Value) : Sync.Stats :=
  let count (name : String) : Nat := natField value name 0
  ⟨count "requests", count "directives_resolved", count "directives_skipped",
    count "cells_populated", count "links_resolved", count "images_inserted",
    count "images_fallback", count "placeholders_unresolved", count "blocks_dropped"⟩

/-- The outcome of a document. -/
def outcomeValue (outcome : Sync.Outcome) : Value :=
  .record [("path", .str outcome.path), ("title", .str outcome.title),
    ("state", .str outcome.phase.name), ("status", optionValue outcome.status (.str ·.name)),
    ("error", optionValue outcome.error .str),
    ("failed_phase", optionValue outcome.failedPhase (.str ·.name)),
    ("succeeded", .bool outcome.succeeded), ("stats", statsValue outcome.stats)]

/-- Read a name that has to be one of a kind. -/
def readName {α : Type} (kind : String) (ofName? : String → Option α) (name : String) :
    Except Failure α :=
  match ofName? name with
  | some known => .ok known
  | none => .error (.badValue s!"{Value.quoteText name} is not a valid {kind}")

/-- Read the outcome of a document. -/
def readOutcome (value : Value) : Except Failure Sync.Outcome := do
  let phase ← readName "PhaseState" Sync.Phase.ofName? (stringField value "state" "idle")
  let status ← (optionField value "status" readString).mapM
    (readName "DocumentStatus" Sync.Status.ofName?)
  let failed ← (optionField value "failed_phase" readString).mapM
    (readName "PhaseState" Sync.Phase.ofName?)
  return ⟨readString (value.part "path"), stringField value "title" "", phase, status,
    optionField value "error" readString, failed, readStats (value.part "stats")⟩

/-- How many documents of a run were created, updated, skipped and failed, and how many it has. -/
def runCounts (run : Sync.Run) : List Nat :=
  [run.count .created, run.count .updated, run.count .skipped, run.count .failed, run.total]

/-- A run, with further fields. -/
def runValue (run : Sync.Run) (extra : List (String × Value)) : Value :=
  .record ([("document_id", optionValue run.documentId .str),
    ("outcomes", listValue run.outcomes outcomeValue),
    ("failures", listValue run.failures (.str ·.path))]
    ++ ["created", "updated", "skipped", "failed", "total"].zip ((runCounts run).map natValue)
    ++ extra)

/-- The stored state. -/
def stateValue (state : Sync.State) : Value :=
  .record [("root_document_id", optionValue state.rootId .str),
    ("root_document_url", optionValue state.rootUrl .str),
    ("last_synced", optionValue state.lastSynced .str),
    ("documents", listValue state.records fun (path, record) => .list [.str path,
      .record [("hash", .str record.hash), ("document_id", .str record.documentId),
        ("last_synced", .str record.lastSynced), ("title", .str record.title)]])]

/-- Read the record of a document. -/
def readRecord (value : Value) : Sync.Record :=
  ⟨readString (value.part "hash"), readString (value.part "document_id"),
    readString (value.part "last_synced"), stringField value "title" ""⟩

/-- Read the stored state. -/
def readState (value : Value) : Sync.State :=
  ⟨optionField value "root_document_id" readString,
    optionField value "root_document_url" readString, optionField value "last_synced" readString,
    (entries (value.part "documents")).map fun (path, record) => (path, readRecord record)⟩

/-- What a document would come to. -/
def previewValue (preview : Sync.Preview) : Value :=
  .record [("path", .str preview.path), ("title", .str preview.title),
    ("requests", natValue preview.requests), ("directives", natValue preview.directives),
    ("tables", natValue preview.tables), ("links", natValue preview.links),
    ("images", natValue preview.images), ("blocks_dropped", natValue preview.blocksDropped)]

/-- Read what a document would come to. -/
def readPreview (value : Value) : Sync.Preview :=
  let count (name : String) : Nat := natField value name 0
  ⟨readString (value.part "path"), readString (value.part "title"), count "requests",
    count "directives", count "tables", count "links", count "images", count "blocks_dropped"⟩

/-- The digest of a source document: the one it comes with, else that of its text. -/
def readDigest (value : Value) : String :=
  let given := stringField value "content_hash" ""
  if given.isEmpty then Digest.ofString (readString (value.part "markdown")) else given

/-- Read a source document; the directory that its links start from is taken below `home`. -/
def readSource (home : String) (value : Value) : Sync.SourceDocument :=
  let path := readString (value.part "path")
  ⟨path, stringField value "title" path, readText (value.part "markdown"), readDigest value,
    (optionField value "base_dir" readString).map (Path.below home)⟩

end DocBinder.Exchange
