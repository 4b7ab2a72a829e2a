import DocBinder.Text.Case
import DocBinder.Text.Word

/-!
# Redacting secrets

What is reported about a failure must not show a secret. Four kinds of secret are recognised: the
value of an authorization header, a bearer token, the value assigned to a token or client secret,
and an access token by its beginning. Each kind is masked in a pass of its own, in this order, over
what the passes before have left.
-/

namespace DocBinder.Access

/-- What stands in place of a secret. -/
def redactionMark : Text :=
  "***REDACTED***".toList

/-- A kind of secret: given the character before a place and the text from there on, what takes the
place of a secret that stands there, and the text after it. -/
abbrev SecretKind := (before : Option Char) → Text → Option (Text × Text)

/-- Mask the secrets of a kind, left to right and without overlap; `skip` counts the characters of
a secret still to drop. -/
def maskFrom (kind : SecretKind) (before : Option Char) (skip : Nat) : Text → Text
  | [] => []
  | character :: rest =>
      match skip with
      | skip + 1 => maskFrom kind (some character) skip rest
      | 0 =>
          match kind before (character :: rest) with
          | some (mask, after) =>
              mask ++ maskFrom kind (some character) (rest.length - after.length) rest
          | none => character :: maskFrom kind (some character) 0 rest

/-- Mask the secrets of a kind. -/
def mask (kind : SecretKind) (text : Text) : Text :=
  maskFrom kind none 0 text

/-- Whether a character ends a header line. -/
def endsHeader (character : Char) : Bool :=
  character == '\n' || character == '\r'

/-- The text after the value of a header. The value is the line that the first character other than
a blank stands on; when only blanks follow, it is all but the line ends at the end. -/
def afterHeaderValue? (text : Text) : Option Text :=
  match Text.trimStart text with
  | [] =>
      let ends := (text.reverse.takeWhile endsHeader).reverse
      if ends.length < text.length then some ends else none
  | value => some (value.dropWhile fun character => !endsHeader character)

/-- An authorization header. -/
def authorizationHeader : SecretKind := fun _ text => do
  let value ← Text.dropWord? "authorization:".toList text
  let after ← afterHeaderValue? value
  return ("Authorization: ".toList ++ redactionMark, after)

/-- A bearer token: the word, blanks, and characters other than blanks. -/
def bearerToken : SecretKind := fun _ text => do
  let gap ← Text.dropWord? "bearer".toList text
  let token := Text.trimStart gap
  let after := token.dropWhile fun character => !Text.isBlank character
  if token.length < gap.length && after.length < token.length then
    return ("Bearer ".toList ++ redactionMark, after)
  else none

/-- The names whose values are secret. -/
def secretNames : List Text :=
  ["access_token".toList, "refresh_token".toList, "client_secret".toList]

/-- Whether a character is a quotation mark. -/
def isQuote (character : Char) : Bool :=
  character == '"' || character == '\''

/-- The text after a quotation mark, if it begins with one. -/
def dropQuote : Text → Text
  | [] => []
  | character :: rest => if isQuote character then rest else character :: rest

/-- Whether a character can be part of an assigned secret. -/
def isSecretChar (character : Char) : Bool :=
  !(isQuote character || Text.isBlank character || character == '&' || character == ','
    || character == '\x7d')

/-- The text after the value that is assigned to a name, when one is. -/
def afterAssignment? (text : Text) : Option Text :=
  match Text.trimStart (dropQuote text) with
  | [] => none
  | sign :: rest =>
      if sign == ':' || sign == '=' then
        let value := dropQuote (Text.trimStart rest)
        let after := value.dropWhile isSecretChar
        if after.length < value.length then some after else none
      else none

/-- A secret assigned to its name, which stays as it is written. -/
def assignedSecret : SecretKind := fun _ text => do
  let (name, rest) ← secretNames.findSome? fun name =>
    (Text.dropWord? name text).map fun rest => (text.take name.length, rest)
  let after ← afterAssignment? rest
  return (name ++ '=' :: redactionMark, after)

/-- Whether a character can be part of an access token. -/
def isTokenChar (character : Char) : Bool :=
  Text.isWord character || character == '.' || character == '-'

/-- An access token, which begins a word. -/
def accessToken : SecretKind := fun before text => do
  let rest ← Text.drop? "ya29.".toList text
  let after := rest.dropWhile isTokenChar
  if !before.any Text.isWord && after.length < rest.length then
    return (redactionMark, after)
  else none

/-- A text without its secrets. -/
def redact (text : Text) : Text :=
  mask accessToken (mask assignedSecret (mask bearerToken (mask authorizationHeader text)))

end DocBinder.Access
