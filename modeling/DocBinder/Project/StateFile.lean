import DocBinder.Files.Store
import DocBinder.Sync.State
import DocBinder.Value.Written
import DocBinder.Yaml.Reader
import DocBinder.Yaml.Writer

/-!
# The state file

The stored state of a project as a YAML file. A project without the file was never written. Reading
is strict about the shape of the file, but takes any value for the text of a record.
-/

namespace DocBinder.Project.StateFile

open Sync (State Record)

/-! ## Reading -/

/-- A failure of the state as a whole. -/
def refused (note : String) : Failure :=
  .of (.state note none)

/-- A failure of one field. -/
def refusedField (field note : String) : Failure :=
  .of (.state note (some field))

/-- The text of a field without blanks around it; a blank one counts as not given. -/
def rootField (value : Value) (field : String) : Except Failure (Option String) :=
  match value.part field with
  | .null => .ok none
  | .str text =>
      let trimmed := Text.strip text.toList
      .ok (if trimmed.isEmpty then none else some (String.ofList trimmed))
  | other =>
      .error (refusedField field s!"Field '{field}' must be a string, got {other.typeName}")

/-- The text of a part that may be left out. -/
def textOrNothing (value : Value) (field : String) : Except Failure String :=
  let part := value.part field
  if part.isEmpty then .ok "" else part.written

/-- A failure of the entry of a path, or of writing the path. -/
def refusedEntry (path : Value) (note : String) : Failure :=
  match path.written with
  | .ok shown => refusedField "documents" s!"Entry for '{shown}' {note}"
  | .error failure => failure

/-- The record that an entry with all its parts gives. -/
def recordOfParts (value : Value) : Except Failure Record := do
  return ⟨← (value.part "hash").written, ← (value.part "document_id").written,
    ← textOrNothing value "last_synced", ← textOrNothing value "title"⟩

/-- The record that an entry gives. -/
def recordOf (path value : Value) : Except Failure (String × Record) :=
  match path, value with
  | .str name, .map _ =>
      let missing := ["document_id", "hash"].filter fun field => (value.get? field).isNone
      if missing.isEmpty then (recordOfParts value).map fun record => (name, record)
      else .error (refusedEntry path ("is missing: " ++ ", ".intercalate missing))
  | _, _ => .error (refusedEntry path "must map a path to a dictionary")

/-- The records that a mapping gives; something empty of any type gives none. -/
def recordsOf (value : Value) : Except Failure (List (String × Record)) :=
  if value.isEmpty then .ok []
  else
    match value with
    | .map entries => entries.mapM fun (path, record) => recordOf path record
    | other => .error (refusedField "documents"
        s!"Field 'documents' must be a dictionary, got {other.typeName}")

/-- The state that a mapping gives. -/
def ofValue (value : Value) : Except Failure State := do
  let rootId ← rootField value "root_document_id"
  let rootUrl ← rootField value "root_document_url"
  let lastSynced ← rootField value "last_synced"
  return ⟨rootId, rootUrl, lastSynced, ← recordsOf (value.part "documents")⟩

/-- The state that a YAML text gives; a blank text gives the state of a project that was never
written. -/
def ofText (text : Text) : Except Failure State :=
  if text.all Text.isBlank then .ok .empty
  else
    match Yaml.read text with
    | .error (.malformed note) => .error (refused s!"Invalid YAML syntax: {note}")
    | .error (.unusable failure) => .error failure
    | .ok content =>
        match content.value with
        | .null => .ok .empty
        | .map entries => ofValue (.map entries)
        | value => .error (refused s!"State must be a YAML dictionary, got {value.typeName}")

/-- Read the state file at a path. -/
def load (files : FileTree) (path : String) : Except Failure State :=
  match files.readText path with
  | .error (.refused .notFound) => .ok .empty
  | .error (.refused refusal) =>
      .error (.of (.stateFilesystem path "read" (some (refusal.message path))))
  | .error (.undecodable fault) => .error (.foreign "UnicodeDecodeError" fault.message)
  | .ok text => ofText text

/-! ## Writing -/

/-- A record as a mapping. -/
def recordValue (record : Record) : Value :=
  .record [("hash", .str record.hash), ("document_id", .str record.documentId),
    ("title", .str record.title), ("last_synced", .str record.lastSynced)]

/-- A text that may not be given as a value. -/
def optional (text : Option String) : Value :=
  (text.map .str).getD .null

/-- A state as a mapping. -/
def toValue (state : State) : Value :=
  .record [("root_document_id", optional state.rootId),
    ("root_document_url", optional state.rootUrl), ("last_synced", optional state.lastSynced),
    ("documents", .record (state.records.map fun (path, record) => (path, recordValue record)))]

/-- Write the state file at a path, and the directories that lead to it. -/
def save (state : State) (files : FileTree) (path : String) : Except Failure FileTree :=
  (files.store path (Yaml.write (toValue state))).mapError fun fault =>
    .of (.stateFilesystem fault.path fault.operation (some fault.reason))

end DocBinder.Project.StateFile
