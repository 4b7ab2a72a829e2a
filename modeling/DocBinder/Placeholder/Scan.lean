import DocBinder.Json.Reader
import DocBinder.Markdown.Fence
import DocBinder.Text.Utf8

/-!
# Finding links and images

The references of a Markdown text are found before it is classified. Code, fenced or inline, is
cut out first and stays as it is written; in what is left, images and links are recognized from
left to right.
-/

namespace DocBinder.Placeholder

open Markdown

/-- A part of a document: text, or a closed fence with its language and body. `source` is the
part as it is written. -/
inductive Segment where
  | text (source : Text)
  | fence (language : Option Text) (body source : Text)
deriving DecidableEq, Repr, Inhabited

/-- A part of a document as it is written. -/
def Segment.source : Segment → Text
  | .text source => source
  | .fence _ _ source => source

/-- Put a line of text in front of segments, joined to text that stands there. -/
def addLine (line : Text) : List (List Text ⊕ Segment) → List (List Text ⊕ Segment)
  | .inl lines :: rest => .inl (line :: lines) :: rest
  | segments => .inl [line] :: segments

/-- Cut lines into runs of text and closed fences; `skip` counts the lines of a fence still to
pass. -/
def segmentLines (skip : Nat) : List Text → List (List Text ⊕ Segment)
  | [] => []
  | line :: after =>
      match skip with
      | skip + 1 => segmentLines skip after
      | 0 =>
          match if opensFence line then fenceBody? after else none with
          | some (body, closing) =>
              .inr (.fence (fenceLanguage? line) (Text.joinLines body)
                  (Text.joinLines (line :: body ++ [closing])))
                :: segmentLines (body.length + 1) after
          | none => addLine line (segmentLines 0 after)

/-- The segments of a document. Joined as lines they are the document; a fence that is not closed
is text. -/
def segments (markdown : Text) : List Segment :=
  (segmentLines 0 (Text.lines markdown)).map fun
    | .inl lines => .text (Text.joinLines lines)
    | .inr segment => segment

/-- The length of inline code at the head of a text, its backticks included. -/
def inlineCode? : Text → Option Nat
  | '`' :: rest =>
      let inner := rest.takeWhile fun character => character != '`' && character != '\n'
      match rest.drop inner.length with
      | '`' :: _ => some (inner.length + 2)
      | _ => none
  | _ => none

/-- Put a character in front of pieces: into the first one, when that is plain text. -/
def addChar (character : Char) : List (Bool × Text) → List (Bool × Text)
  | (false, text) :: rest => (false, character :: text) :: rest
  | pieces => (false, [character]) :: pieces

/-- Cut a text into plain pieces and inline code, which is marked; `skip` counts the characters of
code still to pass. -/
def codePieces (skip : Nat) : Text → List (Bool × Text)
  | [] => []
  | character :: rest =>
      match skip with
      | skip + 1 => codePieces skip rest
      | 0 =>
          match inlineCode? (character :: rest) with
          | some length => (true, (character :: rest).take length) :: codePieces (length - 1) rest
          | none => addChar character (codePieces 0 rest)

/-- A reference to a target, with its text, as it stands in a document. -/
structure Reference where
  text : Text
  target : Text
  source : Text
deriving DecidableEq, Repr, Inhabited

/-- The rest of a text after a title in double quotes, with blanks before it, and after the closing
parenthesis of a reference. -/
def afterTitle? (text : Text) : Option Text :=
  match text with
  | ')' :: rest => some rest
  | character :: _ =>
      if Text.isBlank character then
        match Text.trimStart text with
        | '"' :: quoted =>
            match quoted.dropWhile (· != '"') with
            | '"' :: ')' :: rest => some rest
            | _ => none
        | _ => none
      else none
  | [] => none

/-- A reference behind its opening bracket: a text without a closing bracket, and in parentheses a
target without blanks and perhaps a title. Also gives the rest after it. -/
def referenceBody? (text : Text) : Option (Text × Text × Text) :=
  let shown := text.takeWhile (· != ']')
  match text.drop shown.length with
  | ']' :: '(' :: rest =>
      let target := rest.takeWhile fun character => character != ')' && !Text.isBlank character
      if target.isEmpty then none
      else (afterTitle? (rest.drop target.length)).map fun after => (shown, target, after)
  | _ => none

/-- An image at the head of a text. -/
def imageAt? (text : Text) : Option Reference :=
  match text with
  | '!' :: '[' :: body =>
      (referenceBody? body).map fun (alt, target, after) =>
        ⟨alt, target, text.take (text.length - after.length)⟩
  | _ => none

/-- A link at the head of a text: not behind an exclamation mark, and with a text. -/
def linkAt? (before : Option Char) (text : Text) : Option Reference :=
  if before == some '!' then none
  else
    match text with
    | '[' :: body =>
        match referenceBody? body with
        | some (shown, target, after) =>
            if shown.isEmpty then none
            else some ⟨shown, target, text.take (text.length - after.length)⟩
        | none => none
    | _ => none

/-- Replace what is found at the places of a text, from left to right, by what an action makes of
it; `skip` counts the characters of a find still to pass. -/
def substitute {m : Type → Type} [Monad m] {α : Type} (find : Option Char → Text → Option α)
    (length : α → Nat) (act : α → m Text) (before : Option Char) (skip : Nat) : Text → m Text
  | [] => pure []
  | character :: rest =>
      match skip with
      | skip + 1 => substitute find length act (some character) skip rest
      | 0 =>
          match find before (character :: rest) with
          | some found => do
              let replacement ← act found
              let following ←
                substitute find length act (some character) (length found - 1) rest
              pure (replacement ++ following)
          | none => do
              let following ← substitute find length act (some character) 0 rest
              pure (character :: following)

/-- The beginnings of targets that lead out of the project. -/
def externalHeads : List Text :=
  ["http:".toList, "https:".toList, "mailto:".toList]

/-- Whether a target leads out of the project. -/
def isExternal (target : Text) : Bool :=
  externalHeads.any fun head => (Text.dropWord? head target).isSome

/-- The bytes that percent escapes in ASCII text stand for. -/
def unescapeBytes : Text → List UInt8
  | '%' :: high :: low :: rest =>
      match Json.hexValue? high, Json.hexValue? low with
      | some first, some second => UInt8.ofNat (16 * first + second) :: unescapeBytes rest
      | _, _ => 37 :: unescapeBytes (high :: low :: rest)
  | character :: rest => UInt8.ofNat character.toNat :: unescapeBytes rest
  | [] => []
termination_by text => text.length

/-- Resolve percent escapes in a text whose current run of ASCII, reversed, has been read; bytes
that are no characters are replaced. -/
def unescapeFrom (ascii : Text) : Text → Text
  | [] => Text.decodeUtf8Lossy (unescapeBytes ascii.reverse)
  | character :: rest =>
      if character.toNat < 0x80 then unescapeFrom (character :: ascii) rest
      else
        Text.decodeUtf8Lossy (unescapeBytes ascii.reverse) ++ character :: unescapeFrom [] rest

/-- Resolve the percent escapes of a target. -/
def unescape (target : Text) : Text :=
  unescapeFrom [] target

end DocBinder.Placeholder
