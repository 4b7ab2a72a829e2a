import DocBinder.Failure
import DocBinder.Files.Path
import DocBinder.Json.Writer
import DocBinder.Log

/-!
# Credentials

The user's credentials come from memory, from a token file, or from a flow in the browser, in this
order. Credentials that have run out are renewed when they can be; the flow takes over when they
cannot. The flow needs the settings of a client, which the environment holds.
-/

namespace DocBinder.Access

/-- What renewing credentials comes to. -/
inductive Renewal where
  | succeeds
  | changesNothing
  | fails (failure : Failure)
deriving Repr, Inhabited

/-- A user's credentials. -/
structure Credentials where
  name : String
  isValid : Bool
  hasExpired : Bool
  isRenewable : Bool
  renewal : Renewal
deriving Repr, Inhabited

/-- Credentials as a token file holds them. -/
def Credentials.tokenText (credentials : Credentials) : String :=
  "\x7b\"token\": " ++ Json.quoted true credentials.name ++ "\x7d"

/-- The settings of a client that asks users for access. -/
structure ClientSettings where
  id : String
  secret : String
deriving DecidableEq, Repr, Inhabited

/-- What a keeper of credentials asks of the world around it. -/
inductive CredentialEvent where
  | load (path : String) (scopes : List String)
  | renew (name : String)
  | flow (settings : Value) (scopes : List String)
  | serve (number : Nat)
deriving Repr, Inhabited

/-- The access that users are asked for. -/
def scopes : List String :=
  ["https://www.googleapis.com/auth/documents"]

/-- The path of the token file when none is given. -/
def defaultTokenPath : String :=
  ".gdocs-sync/google-tokens.json"

/-- Where credentials are kept and what may still happen to them: the environment, the path and the
text of the token file, the credentials that the file holds, the results of the flows to come, the
credentials in memory, what the world was asked for, and the log. -/
structure Keeper where
  environment : String → Option String
  path : String
  tokenText : Option String
  stored : Option Credentials
  flows : List (Except Failure Credentials)
  cached : Option Credentials
  events : List CredentialEvent
  log : List Log.Line

namespace Keeper

/-- A step that reads or changes what is kept. -/
abbrev Step (α : Type) := ExceptT Failure (StateM Keeper) α

/-- The settings of the client, as the environment holds them. -/
def settings (keeper : Keeper) : Except Failure ClientSettings :=
  let given (name : String) : String := (keeper.environment name).getD ""
  let id := given "GOOGLE_CLIENT_ID"
  let secret := given "GOOGLE_CLIENT_SECRET"
  let missing := (if id.isEmpty then ["GOOGLE_CLIENT_ID"] else [])
    ++ if secret.isEmpty then ["GOOGLE_CLIENT_SECRET"] else []
  if missing.isEmpty then .ok ⟨id, secret⟩
  else .error (.of (.invalidCredentials (if id.isEmpty then "unknown" else id)
    ("missing environment variables: " ++ ", ".intercalate missing)))

/-- The settings that a flow is started with. -/
def flowSettings (settings : ClientSettings) : Value :=
  .record [("installed", .record [("client_id", .str settings.id),
    ("client_secret", .str settings.secret),
    ("auth_uri", .str "https://accounts.google.com/o/oauth2/auth"),
    ("token_uri", .str "https://oauth2.googleapis.com/token"),
    ("redirect_uris", .list [.str "http://localhost"])])]

/-- Note what the world is asked for. -/
def note (event : CredentialEvent) : Step Unit :=
  modify fun keeper => { keeper with events := keeper.events ++ [event] }

/-- Write credentials to the token file. -/
def save (credentials : Credentials) : Step Unit :=
  modify fun keeper => { keeper with
    tokenText := some credentials.tokenText
    log := keeper.log ++ [⟨.debug, .credentials, s!"Saved tokens to {keeper.path}"⟩] }

/-- The result of the next flow. -/
def nextFlow : Step (Except Failure Credentials) := do
  match (← get).flows with
  | [] => return .error (.foreign "RuntimeError" "no more flows")
  | result :: flows =>
      modify fun keeper => { keeper with flows := flows }
      return result

/-- Ask the user for access and keep the credentials that come of it. -/
def authenticate : Step Credentials := do
  let settings ← ExceptT.mk (pure (← get).settings)
  modify fun keeper => { keeper with
    log := keeper.log ++ [⟨.info, .credentials, "Starting Google OAuth flow in the browser"⟩] }
  note (.flow (flowSettings settings) scopes)
  note (.serve 0)
  match ← nextFlow with
  | .error failure =>
      throw (.of (.invalidCredentials settings.id s!"OAuth flow failed: {failure.message}"))
  | .ok credentials =>
      save credentials
      modify fun keeper => { keeper with cached := some credentials }
      return credentials

/-- The credentials in memory, else those in the token file. -/
def known : Step (Option Credentials) := do
  let keeper ← get
  match keeper.cached with
  | some credentials => return some credentials
  | none =>
      if keeper.tokenText.isNone then return none
      note (.load keeper.path scopes)
      return keeper.stored

/-- Renew credentials that have run out, if they can be. A renewal that is refused leaves none. -/
def renewed (credentials : Credentials) : Step (Option Credentials) := do
  if credentials.isValid || !credentials.hasExpired || !credentials.isRenewable then
    return some credentials
  note (.renew credentials.name)
  match credentials.renewal with
  | .succeeds =>
      let credentials := { credentials with isValid := true, hasExpired := false }
      save credentials
      return some credentials
  | .changesNothing =>
      save credentials
      return some credentials
  | .fails failure =>
      if failure.kind != "RefreshError" then throw failure
      modify fun keeper => { keeper with log := keeper.log ++ [⟨.warning, .credentials,
        s!"Token refresh failed, re-authenticating: {failure.message}"⟩] }
      return none

/-- Valid credentials. -/
def credentials : Step Credentials := do
  let found ← match ← known with
    | some credentials => renewed credentials
    | none => pure none
  match found with
  | some credentials =>
      if credentials.isValid then
        modify fun keeper => { keeper with cached := some credentials }
        return credentials
      else authenticate
  | none => authenticate

/-- Forget the credentials in memory and the token file. -/
def clear : Step Unit :=
  modify fun keeper => { keeper with
    cached := none
    tokenText := none
    log := keeper.log ++ if keeper.tokenText.isSome then
      [⟨.info, .credentials, s!"Removed stored tokens at {keeper.path}"⟩] else [] }

end Keeper

end DocBinder.Access
