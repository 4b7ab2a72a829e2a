import DocBinder.Exchange.Fields
import DocBinder.Failure

/-!
# Exchanged failures

A failure is exchanged as the name of its kind with the parts it is made of. A kind that is not one
of this program's own has a text instead, and may have the answer of the service it was raised for.
-/

namespace DocBinder.Exchange

/-- Read an answer of the remote service. -/
def readResponse (value : Value) : Response :=
  ⟨readInt (value.part "status"), stringField value "reason" "", match value.get? "body" with
    | some body => .json body
    | none => .text (stringField value "text" "")⟩

/-- The cause of a kind of this program made of parts, if the kind is one of its own. -/
def cause? (kind : String) (parts : List Value) : Option Cause :=
  let part (place : Nat) : Value := parts.getD place .null
  let text (place : Nat) : String := (parts[place]?.map Value.text).getD ""
  let maybe (place : Nat) : Option String := readOption (part place) Value.text
  match kind with
  | "SyncError" => some (.general (text 0))
  | "GoogleDocsError" => some (.docs (text 0))
  | "InvalidCredentialsError" => some (.invalidCredentials (text 0) (text 1))
  | "PermissionDeniedError" => some (.permissionDenied (text 0) (part 1))
  | "DocumentNotFoundError" => some (.documentNotFound (text 0))
  | "TransientAPIError" => some (.transient (text 0))
  | "APIUnreachableError" => some (.unreachable (text 0))
  | "RateLimitError" => some (.rateLimited (text 0))
  | "APIAccessError" => some (.accessFailed (if parts.isEmpty then retriesExhausted else text 0))
  | "CompilerError" => some (.compiler (text 0))
  | "ClassificationError" => some (.malformed (part 0) (text 1) (text 2))
  | "ReconciliationError" => some (.reconciliation (text 0))
  | "PositionResolutionError" =>
      some (.unresolved ⟨(text 0).toList, text 1, match (part 2).items with
        | [start, stop] => some (readInt start, readInt stop)
        | _ => none⟩)
  | "FileMapperError" => some (.mapper (text 0))
  | "FilesystemError" => some (.filesystem (text 0) (text 1) (maybe 2))
  | "ConfigError" => some (.config (text 0) (maybe 1))
  | "FrontmatterError" => some (.frontmatter (text 0) (text 1))
  | "CLIError" => some (.commandLine (text 0))
  | "ConfigNotFoundError" => some (.configNotFound (text 0))
  | "InitError" => some (.initialization (text 0))
  | "StateError" => some (.state (text 0) (maybe 1))
  | "StateFilesystemError" => some (.stateFilesystem (text 0) (text 1) (maybe 2))
  | _ => none

/-- Whether a value describes a failure. -/
def isFailure (value : Value) : Bool :=
  (value.get? "kind").isSome

/-- Read a failure. -/
def readFailure (value : Value) : Failure :=
  let kind := readString (value.part "kind")
  let cause := (cause? kind (value.part "args").items).getD
    (.foreign ⟨kind, stringField value "message" "", (value.get? "status").map fun _ =>
      readResponse value⟩)
  ⟨cause, value.get? "status_code"⟩

/-- Whether the text of a failure is exchanged: always for causes of this program, and for foreign
ones in the families whose texts are the same everywhere. -/
def showsMessage : Cause → Bool
  | .foreign failure => ["ValueError", "OSError", "RuntimeError"].any failure.isA
  | _ => true

/-- What came of an attempt, with further fields: its result, or the kind and the text of its
failure. -/
def attemptValue (result : Except Failure Value) (extra : List (String × Value)) : Value :=
  .record <| match result with
    | .ok value => ("ok", value) :: extra
    | .error failure => ("error", .str failure.kind) :: (if showsMessage failure.cause then
        [("message", .str failure.message)] else []) ++ extra

/-- A failure with the parts it is made of, with further fields. -/
def failureValue (failure : Failure) (extra : List (String × Value)) : Value :=
  .record ([("kind", .str failure.kind), ("message", .str failure.message),
    ("attributes", .record (failure.cause.attributes
      ++ (failure.status.map ("status_code", ·)).toList))] ++ extra)

end DocBinder.Exchange
