import DocBinder.Docs.FlatText
import DocBinder.Docs.Request
import DocBinder.Log
import DocBinder.Resolve.Unresolved

/-!
# Replacing tokens

Links and images are written as tokens first. A token that stands exactly once in a snapshot,
table cells included, is replaced by its link or image; any other is left and reported.
Replacements are ordered from the highest index down, so that the chunks they are sent in can all
be computed from one snapshot.
-/

namespace DocBinder

open Docs

/-- A link that a token stands for. -/
structure Link where
  token : Text
  display : Text
  url : Text
  isExternal : Bool
deriving DecidableEq, Repr, Inhabited

/-- What an image was made from. -/
inductive ImageKind where
  | image
  | diagram
deriving DecidableEq, Repr, Inhabited

/-- The name of a kind of image. -/
def ImageKind.name : ImageKind → String
  | .image => "image"
  | .diagram => "diagram"

/-- An image that a token stands for. -/
structure Image where
  token : Text
  uri : Text
  alt : Text
  kind : ImageKind
deriving DecidableEq, Repr, Inhabited

/-- The Markdown of an image, for a service that refuses the image itself. -/
def Image.fallback (image : Image) : Text :=
  '!' :: '[' :: image.alt ++ ']' :: '(' :: image.uri ++ [')']

/-- What a token stands for. -/
inductive Target where
  | link (link : Link)
  | image (image : Image)
deriving DecidableEq, Repr, Inhabited

namespace Target

/-- The token. -/
def token : Target → Text
  | .link item => item.token
  | .image item => item.token

/-- What a token is called in a report. -/
def label : Target → String
  | .link item => s!"link '{String.ofList item.display}'"
  | .image item => s!"{item.kind.name} '{String.ofList item.alt}'"

end Target

/-- A token with the index units it covers. -/
structure Replacement where
  target : Target
  start : Nat
  stop : Nat
deriving DecidableEq, Repr, Inhabited

namespace Replacement

/-- Whether the token stands for an image. -/
def isImage (replacement : Replacement) : Bool :=
  match replacement.target with
  | .image _ => true
  | .link _ => false

/-- The text a link is shown as. -/
def shownText (link : Link) : Text :=
  if link.display.isEmpty then link.url else link.display

/-- The requests that put a link at an index. -/
def linkRequests (link : Link) (index : Nat) : List Request :=
  let shown := shownText link
  .insertText shown (.at index)
    :: if link.url.isEmpty then []
      else [.styleText index (index + Text.width shown) (.link (String.ofList link.url))]

/-- The requests of a replacement: delete the token, then insert the link or the image. -/
def requests (replacement : Replacement) : List Request :=
  .deleteRange replacement.start replacement.stop
    :: match replacement.target with
      | .image image => [.insertImage image.uri replacement.start]
      | .link link => linkRequests link replacement.start

/-- The requests of a replacement where images become text. -/
def fallbackRequests (replacement : Replacement) : List Request :=
  match replacement.target with
  | .image image =>
      [.deleteRange replacement.start replacement.stop,
        .insertText image.fallback (.at replacement.start)]
  | .link _ => replacement.requests

end Replacement

/-- The index units of a token that stands exactly once, or why it has none. -/
def locateToken (flat : FlatText) (token : Text) : Except String (Nat × Nat) :=
  match flat.findAll token with
  | [] => .error "token not found"
  | [position] =>
      (flat.realRange position (position + token.length)).mapError RangeFault.message
  | positions => .error s!"token found {positions.length} times"

/-- The replacements of a document and what was reported while they were planned. -/
structure ReplacementPlan where
  replacements : List Replacement
  log : List Log.Line
deriving Repr, Inhabited

/-- Locate the token of one target. -/
def planTarget (flat : FlatText) (target : Target) : ReplacementPlan :=
  match locateToken flat target.token with
  | .ok (start, stop) => ⟨[⟨target, start, stop⟩], []⟩
  | .error reason =>
      let report : Unresolved := ⟨target.token, reason, none⟩
      ⟨[], [⟨.warning, .replacements, s!"Leaving {target.label} unresolved: {report.message}"⟩]⟩

/-- The targets of a document: its links, then its images. -/
def targets (links : List Link) (images : List Image) : List Target :=
  links.map .link ++ images.map .image

/-- Locate the tokens of links and images, and order what is found from the highest index down. -/
def planReplacements (links : List Link) (images : List Image) (snapshot : Snapshot) :
    ReplacementPlan :=
  let plans := (targets links images).map (planTarget (snapshot.flatten true))
  ⟨(plans.flatMap (·.replacements)).mergeSort fun first second => first.start ≥ second.start,
    plans.flatMap (·.log)⟩

/-- Cut a list into chunks of a positive size, the last of which may be shorter. -/
def chunks (size : Nat) : List α → List (List α)
  | [] => []
  | item :: rest => (item :: rest.take (size - 1)) :: chunks size (rest.drop (size - 1))
termination_by items => items.length
decreasing_by simp only [List.length_cons, List.length_drop]; omega

/-- The requests of a chunk. -/
def chunkRequests (chunk : List Replacement) : List Request :=
  chunk.flatMap Replacement.requests

/-- The requests of a chunk where images become text. -/
def chunkFallback (chunk : List Replacement) : List Request :=
  chunk.flatMap Replacement.fallbackRequests

end DocBinder
