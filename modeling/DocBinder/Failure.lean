import DocBinder.Resolve.Unresolved
import DocBinder.Value.Literal

/-!
# Failures

Everything that can go wrong, as a cause. Causes of this program are typed; what the platform, the
network or the credential service raises is kept with the name of its kind and the families that
kind belongs to.
-/

namespace DocBinder

/-- What an answer of the remote service carries. -/
inductive Content where
  | json (value : Value)
  | text (text : String)
deriving Repr, Inhabited

/-- An answer of the remote service. -/
structure Response where
  status : Int
  reason : String
  content : Content
deriving Repr, Inhabited

/-- The families of foreign kinds, each kind with all it belongs to, nearest first. -/
def foreignFamilies : List (String × List String) :=
  let request := ["RequestException", "OSError"]
  let os := ["OSError"]
  [("UnicodeDecodeError", ["UnicodeError", "ValueError"]),
    ("UnicodeEncodeError", ["UnicodeError", "ValueError"]),
    ("JSONDecodeError", ["InvalidJSONError", "RequestException", "OSError", "ValueError"]),
    ("RecursionError", ["RuntimeError"]), ("NotImplementedError", ["RuntimeError"]),
    ("KeyError", ["LookupError"]), ("IndexError", ["LookupError"]),
    ("OverflowError", ["ArithmeticError"]), ("ZeroDivisionError", ["ArithmeticError"]),
    ("FileNotFoundError", os), ("FileExistsError", os), ("IsADirectoryError", os),
    ("NotADirectoryError", os), ("PermissionError", os), ("TimeoutError", os),
    ("RefreshError", ["GoogleAuthError"]), ("TransportError", ["GoogleAuthError"]),
    ("RequestException", os), ("InvalidJSONError", request), ("HTTPError", request),
    ("ConnectionError", request), ("ProxyError", "ConnectionError" :: request),
    ("SSLError", "ConnectionError" :: request), ("Timeout", request),
    ("ConnectTimeout", "ConnectionError" :: "Timeout" :: request),
    ("ReadTimeout", "Timeout" :: request), ("URLRequired", request),
    ("TooManyRedirects", request), ("MissingSchema", request ++ ["ValueError"]),
    ("InvalidSchema", request ++ ["ValueError"]), ("InvalidURL", request ++ ["ValueError"]),
    ("InvalidHeader", request ++ ["ValueError"]),
    ("InvalidProxyURL", "InvalidURL" :: request ++ ["ValueError"]),
    ("ChunkedEncodingError", request),
    ("ContentDecodingError", "RequestException" :: "BaseHTTPError" :: os),
    ("StreamConsumedError", "RequestException" :: "TypeError" :: os), ("RetryError", request),
    ("UnrewindableBodyError", request)]

/-- A failure that does not come from this program: the name of its kind, its text, and the answer
of the service that it was raised for. -/
structure Foreign where
  kind : String
  note : String
  response : Option Response
deriving Repr, Inhabited

namespace Foreign

/-- The families a foreign failure belongs to, beginning with its kind. -/
def families (failure : Foreign) : List String :=
  failure.kind :: (foreignFamilies.lookup failure.kind).getD []

/-- Whether a foreign failure belongs to a family. -/
def isA (failure : Foreign) (family : String) : Bool :=
  failure.families.contains family

/-- The text of a foreign failure; a missing key is quoted. -/
def message (failure : Foreign) : String :=
  if failure.kind == "KeyError" then Value.quoteText failure.note else failure.note

end Foreign

/-- Why something failed. -/
inductive Cause where
  /-- A failure of this program without a closer kind. -/
  | general (note : String)
  | docs (note : String)
  | invalidCredentials (client reason : String)
  | permissionDenied (operation : String) (status : Value)
  | documentNotFound (documentId : String)
  | transient (note : String)
  | unreachable (endpoint : String)
  | rateLimited (operation : String)
  | accessFailed (note : String)
  | compiler (note : String)
  | malformed (line : Value) (construct reason : String)
  | reconciliation (note : String)
  | unresolved (report : Unresolved)
  | mapper (note : String)
  | filesystem (path operation : String) (reason : Option String)
  | config (note : String) (field : Option String)
  | frontmatter (path note : String)
  | commandLine (note : String)
  | configNotFound (path : String)
  | initialization (note : String)
  | state (note : String) (field : Option String)
  | stateFilesystem (path operation : String) (reason : Option String)
  | foreign (failure : Foreign)
deriving Repr, Inhabited

/-- A failure: its cause, and the status code that was attached to it, if any was. -/
structure Failure where
  cause : Cause
  status : Option Value
deriving Repr, Inhabited

/-- What is said when the remote service keeps failing. -/
def retriesExhausted : String :=
  "Google Docs API failure (after 3 retries)"

namespace Cause

/-- A reason after a colon, when there is one. -/
def withReason (reason : Option String) : String :=
  match reason with
  | some reason => if reason.isEmpty then "" else ": " ++ reason
  | none => ""

/-- The name of a field that is at fault, when there is one. -/
def withField (field : Option String) : String :=
  match field with
  | some field => if field.isEmpty then "" else s!" in field '{field}'"
  | none => ""

/-- The text of a cause. -/
def message : Cause → String
  | .general note => note
  | .docs note => note
  | .invalidCredentials client reason =>
      s!"Google credentials are invalid (client: {client}): {reason}"
  | .permissionDenied operation status =>
      s!"Permission denied during {operation}"
        ++ if status.isEmpty then "" else s!" (HTTP {status.text})"
  | .documentNotFound documentId => s!"Document {documentId} not found"
  | .transient note => note
  | .unreachable endpoint => s!"API is not available at {endpoint}"
  | .rateLimited operation => s!"Rate limit hit during {operation}"
  | .accessFailed note => note
  | .compiler note => note
  | .malformed line construct reason => s!"Malformed {construct} at line {line.text}: {reason}"
  | .reconciliation note => note
  | .unresolved report => report.message
  | .mapper note => note
  | .filesystem path operation reason =>
      s!"Filesystem operation '{operation}' failed for {path}" ++ withReason reason
  | .config note field => s!"Configuration error{withField field}: {note}"
  | .frontmatter path note => s!"Frontmatter error in {path}: {note}"
  | .commandLine note => note
  | .configNotFound path =>
      s!"Configuration file not found at {path}. Run 'gdocs-sync --init' first."
  | .initialization note => note
  | .state note field => s!"State error{withField field}: {note}"
  | .stateFilesystem path operation reason =>
      s!"State file operation '{operation}' failed for {path}" ++ withReason reason
  | .foreign failure => failure.message

/-- The families a cause belongs to, beginning with its own kind. -/
def families : Cause → List String
  | .general _ => ["SyncError"]
  | .docs _ => ["GoogleDocsError", "SyncError"]
  | .invalidCredentials .. => ["InvalidCredentialsError", "GoogleDocsError", "SyncError"]
  | .permissionDenied .. => ["PermissionDeniedError", "GoogleDocsError", "SyncError"]
  | .documentNotFound _ => ["DocumentNotFoundError", "GoogleDocsError", "SyncError"]
  | .transient _ => ["TransientAPIError", "GoogleDocsError", "SyncError"]
  | .unreachable _ =>
      ["APIUnreachableError", "TransientAPIError", "GoogleDocsError", "SyncError"]
  | .rateLimited _ => ["RateLimitError", "TransientAPIError", "GoogleDocsError", "SyncError"]
  | .accessFailed _ => ["APIAccessError", "GoogleDocsError", "SyncError"]
  | .compiler _ => ["CompilerError", "SyncError"]
  | .malformed .. => ["ClassificationError", "CompilerError", "SyncError"]
  | .reconciliation _ => ["ReconciliationError", "SyncError"]
  | .unresolved _ => ["PositionResolutionError", "ReconciliationError", "SyncError"]
  | .mapper _ => ["FileMapperError", "SyncError"]
  | .filesystem .. => ["FilesystemError", "FileMapperError", "SyncError"]
  | .config .. => ["ConfigError", "FileMapperError", "SyncError"]
  | .frontmatter .. => ["FrontmatterError", "FileMapperError", "SyncError"]
  | .commandLine _ => ["CLIError", "SyncError"]
  | .configNotFound _ => ["ConfigNotFoundError", "CLIError", "SyncError"]
  | .initialization _ => ["InitError", "CLIError", "SyncError"]
  | .state .. => ["StateError", "CLIError", "SyncError"]
  | .stateFilesystem .. => ["StateFilesystemError", "CLIError", "SyncError"]
  | .foreign failure => failure.families

/-- The name of a cause's kind. -/
def kind (cause : Cause) : String :=
  cause.families.headD ""

/-- An optional text as a value. -/
def optional : Option String → Value
  | some text => .str text
  | none => .null

/-- The named parts of a cause. -/
def attributes : Cause → List (String × Value)
  | .invalidCredentials client reason => [("client_id", .str client), ("reason", .str reason)]
  | .permissionDenied operation status => [("operation", .str operation), ("status_code", status)]
  | .documentNotFound documentId => [("document_id", .str documentId)]
  | .unreachable endpoint => [("endpoint", .str endpoint)]
  | .rateLimited operation => [("operation", .str operation)]
  | .malformed line construct reason =>
      [("line_number", line), ("kind", .str construct), ("reason", .str reason)]
  | .unresolved report =>
      [("literal_text", .str (String.ofList report.literal)), ("reason", .str report.reason),
        ("scope", match report.scope with
          | some (start, stop) => .list [.int start, .int stop]
          | none => .null)]
  | .filesystem path operation reason =>
      [("file_path", .str path), ("operation", .str operation), ("reason", optional reason)]
  | .config note field => [("config_field", optional field), ("original_message", .str note)]
  | .frontmatter path note => [("file_path", .str path), ("message", .str note)]
  | .configNotFound path => [("config_path", .str path)]
  | .state note field => [("state_field", optional field), ("original_message", .str note)]
  | .stateFilesystem path operation reason =>
      [("file_path", .str path), ("operation", .str operation), ("reason", optional reason)]
  | _ => []

/-- Whether the remote service or the access to it failed. -/
def isDocs (cause : Cause) : Bool :=
  match cause with
  | .docs _ | .invalidCredentials .. | .permissionDenied .. | .documentNotFound _ | .transient _
  | .unreachable _ | .rateLimited _ | .accessFailed _ => true
  | _ => false

/-- Whether a failure of the remote service may pass by itself. -/
def isTransient : Cause → Bool
  | .transient _ | .unreachable _ | .rateLimited _ => true
  | _ => false

/-- Whether the credentials are at fault. -/
def isInvalidCredentials : Cause → Bool
  | .invalidCredentials .. => true
  | _ => false

/-- Whether access was denied. -/
def isPermissionDenied : Cause → Bool
  | .permissionDenied .. => true
  | _ => false

/-- Whether a document is missing. -/
def isDocumentNotFound : Cause → Bool
  | .documentNotFound _ => true
  | _ => false

/-- Whether the configuration is at fault or missing. -/
def isConfiguration : Cause → Bool
  | .config .. | .configNotFound _ => true
  | _ => false

/-- Whether reading the project's files or its configuration failed. -/
def isMapper : Cause → Bool
  | .mapper _ | .filesystem .. | .config .. | .frontmatter .. => true
  | _ => false

/-- Whether the command line or the stored state is at fault. -/
def isCommandLine : Cause → Bool
  | .commandLine _ | .configNotFound _ | .initialization _ | .state .. | .stateFilesystem .. => true
  | _ => false

end Cause

namespace Failure

/-- A failure without an attached status code. -/
def of (cause : Cause) : Failure :=
  ⟨cause, none⟩

/-- A foreign failure of a kind. -/
def foreign (kind note : String) : Failure :=
  .of (.foreign ⟨kind, note, none⟩)

/-- A value that cannot be used. -/
def badValue (note : String) : Failure :=
  .foreign "ValueError" note

/-- The text of a failure. -/
def message (failure : Failure) : String :=
  failure.cause.message

/-- The name of a failure's kind. -/
def kind (failure : Failure) : String :=
  failure.cause.kind

end Failure

end DocBinder
