import DocBinder.Docs.Buffer
import DocBinder.Docs.Remote

/-!
# A service in memory

A service that keeps its documents as buffers and remembers what was done to them. Faults can be
planned: for the calls of a given number, for batches that insert certain texts, and for batches
with certain kinds of requests.
-/

namespace DocBinder.Docs

/-- The faults that a service is to have. The calls of each operation are counted from zero. -/
structure Faults where
  fetch : List (Nat × Failure)
  update : List (Nat × Failure)
  create : List (Nat × Failure)
  texts : List Text
  kinds : List String
  authenticate : Option Failure
deriving Repr, Inhabited

/-- No faults. -/
def Faults.none : Faults :=
  ⟨[], [], [], [], [], Option.none⟩

/-- How often each operation was called; empty batches do not count. -/
structure CallCounts where
  fetch : Nat
  update : Nat
  create : Nat
  reset : Nat
  clearTokens : Nat
  authenticate : Nat
deriving DecidableEq, Repr, Inhabited

/-- A document of the service. -/
structure StoredDocument where
  id : String
  title : String
  body : Buffer
deriving DecidableEq, Repr, Inhabited

/-- The state of the service. -/
structure Service where
  documents : List StoredDocument
  faults : Faults
  counts : CallCounts
  batches : List (List Request)
  styled : List (Text × TextStyle)
  images : List Text
  created : List String
deriving Repr, Inhabited

namespace Service

/-- A service with documents and planned faults. -/
def ofDocuments (documents : List StoredDocument) (faults : Faults) : Service :=
  ⟨documents, faults, ⟨0, 0, 0, 0, 0, 0⟩, [], [], [], []⟩

/-- The document of an identifier. -/
def find? (service : Service) (documentId : String) : Option StoredDocument :=
  service.documents.find? (·.id == documentId)

/-- Put a body in the place of a document's body. -/
def setBody (service : Service) (documentId : String) (body : Buffer) : Service :=
  { service with documents := service.documents.map fun document =>
      if document.id == documentId then { document with body := body } else document }

/-- The wire form of a document. -/
def wire (document : StoredDocument) : Value :=
  document.body.toDocument document.id document.title

/-- Fail with the fault that is planned for a call. -/
def planned (faults : List (Nat × Failure)) (number : Nat) : Call Service Unit :=
  match faults.lookup number with
  | some failure => throw failure
  | none => pure ()

/-- Whether the service is to refuse a request. -/
def refuses (faults : Faults) (request : Request) : Bool :=
  faults.kinds.contains request.kind || match request with
    | .insertText text _ => faults.texts.any (Text.contains text)
    | _ => false

/-- The document of an identifier, which must exist. -/
def require (documentId : String) : Call Service StoredDocument := do
  match (← get).find? documentId with
  | some document => return document
  | none => throw (.of (.documentNotFound documentId))

/-- Fetch a document. -/
def fetch (documentId : String) : Call Service Value := do
  let service ← get
  set { service with counts := { service.counts with fetch := service.counts.fetch + 1 } }
  planned service.faults.fetch service.counts.fetch
  return wire (← require documentId)

/-- Make an empty document. -/
def create (title : String) : Call Service Value := do
  let service ← get
  set { service with counts := { service.counts with create := service.counts.create + 1 } }
  planned service.faults.create service.counts.create
  let document : StoredDocument :=
    ⟨s!"created{service.created.length + 1}", title, Buffer.ofText []⟩
  modify fun service => { service with
    documents := service.documents.filter (·.id != document.id) ++ [document]
    created := service.created ++ [document.id] }
  return wire document

/-- Apply a batch to a document. An empty batch does nothing. -/
def update (documentId : String) (requests : List Request) : Call Service Unit := do
  if requests.isEmpty then return
  let service ← get
  set { service with counts := { service.counts with update := service.counts.update + 1 } }
  planned service.faults.update service.counts.update
  if requests.any (refuses service.faults) then
    throw (.of (.accessFailed "Google Docs API failure during batch_update: rejected"))
  let document ← require documentId
  match applyBatch document.body requests with
  | .error failure => throw failure
  | .ok (body, effects) =>
      modify fun service => { service.setBody documentId body with
        batches := service.batches ++ [requests]
        styled := service.styled ++ effects.styled
        images := service.images ++ effects.images }

/-- Count a change of the counts. -/
def counting (change : CallCounts → CallCounts) : Call Service Unit :=
  modify fun service => { service with counts := change service.counts }

/-- The service as a remote. -/
def remote : Remote Service where
  fetch := fetch
  create := create
  update := update
  reset := counting fun counts => { counts with reset := counts.reset + 1 }
  clearTokens := counting fun counts => { counts with clearTokens := counts.clearTokens + 1 }
  authenticate := do
    counting fun counts => { counts with authenticate := counts.authenticate + 1 }
    match (← get).faults.authenticate with
    | some failure => throw failure
    | none => pure ()

end Service

end DocBinder.Docs
