import DocBinder.Access.Redact
import DocBinder.Failure
import DocBinder.Json.Reader
import DocBinder.Log

/-!
# Diagnosing failures

What a failure of an operation on the remote service amounts to: no access, no such document, a
limit, a service out of reach, or a refusal with the reason that the service or the failure gives.
What is said about a refusal holds no secrets.
-/

namespace DocBinder.Access

/-- The address under which the remote service holds its documents. -/
def serviceAddress : String :=
  "https://docs.googleapis.com/v1/documents"

/-- The value that the content of an answer spells, if any does. A byte order mark before it does
not count. -/
def readContent : Content → Except String Value
  | .json value => .ok value
  | .text text =>
      match text.toList with
      | '\ufeff' :: rest => Json.read rest
      | characters => Json.read characters

/-- The status code of a failure: the one attached to it, else that of the answer it was raised
for. -/
def statusOf (failure : Failure) : Option Value :=
  let attached := match failure.status with
    | some .null => none
    | status => status
  attached.or <| match failure.cause with
    | .foreign foreign => foreign.response.map fun response => .int response.status
    | _ => none

/-- Whether a status is a whole number at least `low` and below `high`. -/
def statusWithin (low high : Int) (status : Option Value) : Bool :=
  match status.bind Value.int? with
  | some code => low ≤ code && code < high
  | none => false

/-- The text in the first parentheses that hold any: from the first opening one that is followed by
a character other than a closing one, up to the next closing one. -/
def parenthesized? : Text → Option Text
  | [] => none
  | character :: rest =>
      let inner := rest.takeWhile (· != ')')
      if character == '(' && !inner.isEmpty && inner.length < rest.length then some inner
      else parenthesized? rest

/-- What the service says about a failure in its answer, if it says anything. -/
def serviceMessage? (response : Response) : Option Value :=
  match readContent response.content with
  | .ok body =>
      match (body.part "error").get? "message" with
      | some message => if message.isEmpty then none else some message
      | none => none
  | .error _ => none

/-- What is known about a failure beyond its kind. -/
def detail (failure : Failure) : Value :=
  let said := match failure.cause with
    | .foreign foreign => foreign.response.bind serviceMessage?
    | _ => none
  said.getD (.str failure.message)

/-- Whether a failure comes from the network. -/
def isNetworkFailure (cause : Cause) : Bool :=
  match cause with
  | .foreign foreign => foreign.isA "Timeout" || foreign.isA "ConnectionError"
  | _ => false

/-- Whether a failure comes from credentials that could not be renewed. -/
def isRenewalFailure (cause : Cause) : Bool :=
  match cause with
  | .foreign foreign => foreign.isA "RefreshError"
  | _ => false

/-- What a failure amounts to, and what is reported about it. -/
structure Diagnosis where
  failure : Failure
  log : List Log.Line
deriving Repr, Inhabited

/-- The cause that the kind or the status of a failure points to, if it does. -/
def knownCause? (failure : Failure) (operation : String) : Option Cause :=
  let status := statusOf failure
  let equals (code : Int) : Bool := status.any fun value => value.sameKey (.int code)
  if isNetworkFailure failure.cause then some (.unreachable serviceAddress)
  else if isRenewalFailure failure.cause then some (.permissionDenied operation .null)
  else if equals 401 || equals 403 then some (.permissionDenied operation (status.getD .null))
  else if equals 404 then
    some (.documentNotFound (((parenthesized? operation.toList).map String.ofList).getD "unknown"))
  else if equals 429 then some (.rateLimited operation)
  else if statusWithin 500 600 status then some (.unreachable serviceAddress)
  else none

/-- Diagnose a failure of an operation. What is known about a refusal has to be a text. -/
def diagnose (failure : Failure) (operation : String) : Except Failure Diagnosis :=
  if failure.cause.isDocs then .ok ⟨failure, []⟩
  else
    match knownCause? failure operation with
    | some cause => .ok ⟨.of cause, []⟩
    | none =>
        match detail failure with
        | .str note =>
            let safe := String.ofList (redact note.toList)
            .ok ⟨.of (.accessFailed s!"Google Docs API failure during {operation}: {safe}"),
              [⟨.error, .remote, s!"API operation failed: {operation} - {safe}"⟩]⟩
        | other => .error (.foreign "TypeError"
            s!"expected string or bytes-like object, got '{other.typeName}'")

end DocBinder.Access
