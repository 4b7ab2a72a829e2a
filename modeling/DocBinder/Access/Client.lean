import DocBinder.Access.Retry
import DocBinder.Docs.Remote

/-!
# The client of the remote service

The operations on remote documents as exchanges over a network. A session is opened with the user's
credentials when it is first needed and kept until it is reset. Each operation is one exchange,
tried again while its failure may pass; every other failure is diagnosed.
-/

namespace DocBinder.Access

open Docs

/-- The method of an exchange. -/
inductive Method where
  | get
  | post
deriving DecidableEq, Repr, Inhabited

/-- The name of a method. -/
def Method.name : Method → String
  | .get => "GET"
  | .post => "POST"

/-- What is sent to the service, and for how many seconds an answer is awaited. -/
structure Exchange where
  method : Method
  address : String
  payload : Value
  timeout : Value
deriving Repr, Inhabited

/-- What a client needs of the world around it. -/
structure World (ω : Type) where
  /-- Open a session with the user's credentials. -/
  openSession : Call ω Unit
  /-- Close the session. -/
  closeSession : StateM ω Unit
  /-- Send something over the session and await the answer. -/
  send : Exchange → Call ω Response
  /-- Wait for some seconds. -/
  wait : Nat → StateM ω Unit

/-- What a client changes: the world, whether it has a session, and the log. -/
structure Connection (ω : Type) where
  world : ω
  isOpen : Bool
  log : List Log.Line

/-- A client of the service. -/
structure Client (ω : Type) where
  world : World ω
  timeout : Value

/-- The address at which a person sees a document. -/
def documentAddress (documentId : String) : String :=
  s!"https://docs.google.com/document/d/{documentId}/edit"

/-- Whether a character may stand in the identifier of a document. -/
def isIdentifierChar (character : Char) : Bool :=
  character.isAlphanum || character == '_' || character == '-'

/-- Whether an identifier of a document is safe to put into an address: blanks around it do not
count. -/
def checkDocumentId (documentId : String) : Except Failure Unit :=
  let trimmed := Text.strip documentId.toList
  if trimmed.isEmpty then .error (.badValue "document_id cannot be empty")
  else if trimmed.all isIdentifierChar then .ok ()
  else .error (.badValue (s!"Invalid document_id format: '{documentId}'. "
    ++ "Document IDs contain only letters, digits, '-' and '_'."))

/-- The failure that an answer of the service amounts to, if it is one: its status tells. -/
def refusal? (response : Response) (address : String) : Option Failure :=
  let refused (side : String) : Option Failure :=
    some (.of (.foreign ⟨"HTTPError",
      s!"{response.status} {side} Error: {response.reason} for url: {address}", some response⟩))
  if 400 ≤ response.status && response.status < 500 then refused "Client"
  else if 500 ≤ response.status && response.status < 600 then refused "Server"
  else none

/-- The value that an answer of the service carries; an empty answer carries an empty mapping. -/
def resultOf (response : Response) : Except Failure Value :=
  match response.content with
  | .text "" => .ok (.record [])
  | content => (readContent content).mapError (.foreign "JSONDecodeError")

namespace Client

variable {ω : Type}

/-- An operation of a client. -/
abbrev Step (ω α : Type) := ExceptT Failure (StateM (Connection ω)) α

/-- Do something in the world. -/
def act {α : Type} (action : Call ω α) : Step ω α :=
  ExceptT.mk fun connection =>
    let (result, world) := action.run connection.world
    (result, { connection with world := world })

/-- Add lines to the log. -/
def report (lines : List Log.Line) : StateM (Connection ω) Unit :=
  modify fun connection => { connection with log := connection.log ++ lines }

/-- Open a session unless there is one. -/
def ensureSession (client : Client ω) : Step ω Unit := do
  if (← get).isOpen then return
  act client.world.openSession
  modify fun connection => { connection with isOpen := true }

/-- One exchange with the service. -/
def exchange (client : Client ω) (exchange : Exchange) : Step ω Value := do
  client.ensureSession
  let response ← act (client.world.send exchange)
  match refusal? response exchange.address with
  | some failure => throw failure
  | none => liftExcept (resultOf response)
where
  /-- A result that is already known. -/
  liftExcept (result : Except Failure Value) : Step ω Value := ExceptT.mk (pure result)

/-- One exchange, whose failure is diagnosed. -/
def attempt (client : Client ω) (exchange : Exchange) (operation : String) : Step ω Value :=
  tryCatch (client.exchange exchange) fun failure =>
    match diagnose failure operation with
    | .error failure => throw failure
    | .ok diagnosis => do
        ExceptT.lift (report diagnosis.log)
        throw diagnosis.failure

/-- Wait for some seconds. -/
def pause (client : Client ω) (seconds : Nat) : StateM (Connection ω) Unit :=
  modify fun connection =>
    { connection with world := ((client.world.wait seconds).run connection.world).2 }

/-- Carry out an operation by an exchange, again while its failure may pass. -/
def call (client : Client ω) (method : Method) (address operation : String) (payload : Value) :
    Step ω Value :=
  ExceptT.mk <| retry (client.attempt ⟨method, address, payload, client.timeout⟩ operation).run
    client.pause fun line => report [line]

/-- Fetch a document. -/
def fetch (client : Client ω) (documentId : String) : Step ω Value := do
  ExceptT.mk (pure (checkDocumentId documentId))
  client.call .get s!"{serviceAddress}/{documentId}" s!"get_document({documentId})" .null

/-- Make an empty document with a title. -/
def create (client : Client ω) (title : String) : Step ω Value := do
  let made ← client.call .post serviceAddress s!"create_document({title})"
    (.record [("title", .str title)])
  match made with
  | .map _ =>
      let documentId := (made.part "documentId").text
      ExceptT.lift (report
        [⟨.info, .remote, s!"Created document '{title}' ({documentId})"⟩])
      return made
  | other => throw (.foreign "AttributeError" s!"'{other.typeName}' object has no attribute 'get'")

/-- Send a batch of requests in wire form. An empty batch is not sent. -/
def update (client : Client ω) (documentId : String) (requests : List Value) : Step ω Value := do
  ExceptT.mk (pure (checkDocumentId documentId))
  if requests.isEmpty then
    return .record [("documentId", .str documentId), ("replies", .list [])]
  ExceptT.lift (report
    [⟨.debug, .remote, s!"Submitting batch of {requests.length} request(s) to {documentId}"⟩])
  client.call .post s!"{serviceAddress}/{documentId}:batchUpdate" s!"batch_update({documentId})"
    (.record [("requests", .list requests)])

/-- Drop the session, so that the next operation opens one with new credentials. -/
def reset (client : Client ω) : Step ω Unit := do
  if (← get).isOpen then
    modify fun connection =>
      { connection with
        world := (client.world.closeSession.run connection.world).2, isOpen := false }

end Client

end DocBinder.Access
