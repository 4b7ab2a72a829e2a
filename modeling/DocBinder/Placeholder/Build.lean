import DocBinder.Files.Tree
import DocBinder.Log
import DocBinder.Placeholder.Cache
import DocBinder.Placeholder.Scan
import DocBinder.Resolve.Replacements

/-!
# Putting tokens for links, images and diagrams

Every link, image and rendered diagram of a document is replaced by a token of its own, even when
the same one stands there several times. The numbers of tokens go on through all documents of a
run. Local files are uploaded, each content once.
-/

namespace DocBinder.Placeholder

/-- What an uploader reports: the address of a file, and whether it was there before. -/
structure Upload where
  url : String
  cached : Bool
deriving DecidableEq, Repr, Inhabited

/-- Stores the file at a path where it can be fetched. -/
abbrev Uploader := String → Except Failure Upload

/-- Renders a diagram of a language to an image file, or fails to; the number counts the diagrams
rendered before. -/
abbrev Renderer := Text → Text → Nat → Except Failure (Option String)

/-- What is asked of the uploader and the renderer. -/
inductive Event where
  | upload (path : String)
  | render (code language : Text)
deriving DecidableEq, Repr, Inhabited

/-- What a builder works with. Diagram languages are in lower case. -/
structure Setup where
  diagramLanguages : List Text
  uploader : Option Uploader
  renderer : Option Renderer
  files : FileTree

/-- The diagram languages of a builder: the given ones, or the usual ones when none are given. -/
def diagramLanguages (given : List Text) : List Text :=
  if given.isEmpty then Markdown.defaultDiagramLanguages else given.map Text.lower

/-- The kinds of tokens. -/
inductive TokenKind where
  | link
  | image
  | diagram
deriving DecidableEq, Repr, Inhabited

/-- The word of a kind of token. -/
def TokenKind.word : TokenKind → Text
  | .link => ['L', 'I', 'N', 'K']
  | .image => ['I', 'M', 'A', 'G', 'E']
  | .diagram => ['D', 'I', 'A', 'G', 'R', 'A', 'M']

/-- The token of a kind and a number. -/
def token (kind : TokenKind) (number : Nat) : Text :=
  ['[', '[', '['] ++ kind.word ++ '_' :: (toString number).toList ++ [']', ']', ']']

/-- The next number of each kind of token. -/
structure Counters where
  link : Nat
  image : Nat
  diagram : Nat
deriving DecidableEq, Repr, Inhabited

namespace Counters

/-- The next number of a kind. -/
def get (counters : Counters) : TokenKind → Nat
  | .link => counters.link
  | .image => counters.image
  | .diagram => counters.diagram

/-- Count a token of a kind. -/
def advance (counters : Counters) : TokenKind → Counters
  | .link => { counters with link := counters.link + 1 }
  | .image => { counters with image := counters.image + 1 }
  | .diagram => { counters with diagram := counters.diagram + 1 }

end Counters

/-- What a builder counts for one document. -/
structure Stats where
  links : Nat
  images : Nat
  diagrams : Nat
  diagramsUnrendered : Nat
  uploads : Nat
  uploadsCached : Nat
deriving DecidableEq, Repr, Inhabited

/-- Nothing counted. -/
def Stats.zero : Stats :=
  ⟨0, 0, 0, 0, 0, 0⟩

/-- What a builder keeps from document to document, what it asked of others, and its log. -/
structure BuilderState where
  counters : Counters
  cache : Cache
  rendered : Nat
  events : List Event
  log : List Log.Line
deriving Repr, Inhabited

/-- A builder at the start of a run. -/
def BuilderState.initial : BuilderState :=
  ⟨⟨0, 0, 0⟩, Cache.empty, 0, [], []⟩

/-- A builder at the start of another run: the renderer goes on counting, and what was asked of it
and of the uploader stays known. -/
def BuilderState.renewed (state : BuilderState) : BuilderState :=
  { BuilderState.initial with rendered := state.rendered, events := state.events }

/-- What a builder makes of one document: the Markdown with tokens, and what they stand for. -/
structure Built where
  markdown : Text
  links : List Link
  images : List Image
  stats : Stats
deriving Repr, Inhabited

/-- A builder at work on a document. -/
structure Work where
  state : BuilderState
  links : List Link
  images : List Image
  stats : Stats
deriving Repr, Inhabited

/-- A step of building, which keeps what was done before a failure. -/
abbrev Build (α : Type) := ExceptT Failure (StateM Work) α

/-- Add a line to the log. -/
def report (level : Log.Level) (message : String) : Build Unit :=
  modify fun work =>
    { work with state := { work.state with
        log := work.state.log ++ [⟨level, .placeholders, message⟩] } }

/-- Note what is asked of another part. -/
def record (event : Event) : Build Unit :=
  modify fun work =>
    { work with state := { work.state with events := work.state.events ++ [event] } }

/-- Change what is counted. -/
def count (change : Stats → Stats) : Build Unit :=
  modify fun work => { work with stats := change work.stats }

/-- Take the next token of a kind. -/
def nextToken (kind : TokenKind) : Build Text := do
  let work ← get
  set { work with state := { work.state with counters := work.state.counters.advance kind } }
  return token kind (work.state.counters.get kind)

/-- Ask the cache. -/
def cached (key : String) : Build (Option String) := do
  let work ← get
  let (found, cache) := work.state.cache.get key
  set { work with state := { work.state with cache := cache } }
  return found

/-- Remember an address. -/
def remember (key address : String) : Build Unit :=
  modify fun work =>
    { work with state := { work.state with cache := work.state.cache.put key address } }

/-- Hand a file to the uploader. -/
def upload (uploader : Uploader) (path : String) : Build Upload := do
  record (.upload path)
  ExceptT.mk (pure (uploader path))

/-- Hand a diagram to the renderer. -/
def render (renderer : Renderer) (code language : Text) : Build (Option String) := do
  record (.render code language)
  let work ← get
  let image ← ExceptT.mk (pure (renderer code language work.state.rendered))
  if image.isSome then
    modify fun work =>
      { work with state := { work.state with rendered := work.state.rendered + 1 } }
  return image

/-- The path that a source leads to from a directory. Names that are too long for the file system
are refused. -/
def resolvePath (files : FileTree) (directory : String) (source : Text) :
    Except Failure String :=
  let path := Path.below directory (Path.tidy (String.ofList (unescape source)))
  if path.toList.contains '\x00' then .error (.badValue "embedded null byte")
  else
    match files.stat path with
    | .error .linkLoop =>
        .error (.foreign "RuntimeError"
          s!"Symlink loop from {Value.quoteText (files.realPath path)}")
    | .error .nameTooLong => .error (Refusal.nameTooLong.failure (files.realPath path))
    | _ => .ok (files.realPath path)

/-- The address of a local file, which is uploaded unless the same content was before. Without an
uploader or a directory to start from, and for a missing file, there is none. -/
def uploadLocal (setup : Setup) (directory : Option String) (source : Text) :
    Build (Option Text) := do
  match setup.uploader, directory with
  | some uploader, some directory =>
      let path ← ExceptT.mk (pure (resolvePath setup.files directory source))
      match setup.files.read path with
      | .error _ =>
          report .warning s!"Referenced file not found: {path}"
          return none
      | .ok content =>
          let key := Digest.sha256Hex content
          match ← cached key with
          | some address =>
              count fun stats => { stats with uploadsCached := stats.uploadsCached + 1 }
              return some address.toList
          | none =>
              let result ← upload uploader path
              remember key result.url
              count fun stats => { stats with
                uploads := stats.uploads + 1
                uploadsCached := stats.uploadsCached + if result.cached then 1 else 0 }
              return some result.url.toList
  | _, _ =>
      report .debug s!"No uploader configured, leaving '{String.ofList source}' in place"
      return none

/-- Put a token for an image, unless it is a local one that has no address. -/
def replaceImage (setup : Setup) (directory : Option String) (image : Reference) : Build Text := do
  let address ←
    if isExternal image.target then pure (some image.target)
    else uploadLocal setup directory image.target
  match address with
  | none => return image.source
  | some address =>
      let token ← nextToken .image
      modify fun work =>
        { work with images := work.images ++ [⟨token, address, image.text, .image⟩] }
      count fun stats => { stats with images := stats.images + 1 }
      return token

/-- The part of a target before its anchor. -/
def withoutAnchor (target : Text) : Text :=
  target.takeWhile (· != '#')

/-- The suffixes of Markdown files. -/
def markdownSuffixes : List String :=
  [".md", ".mdx"]

/-- Whether a target is a place in this document or another document of the project. -/
def isInternal (target : Text) : Bool :=
  ['#'].isPrefixOf target
    || markdownSuffixes.contains
      (Text.lowerString (Path.suffix (String.ofList (withoutAnchor target))))

/-- Put a token for a link. A link inside the project becomes its text, and so does one to a local
file that has no address. -/
def replaceLink (setup : Setup) (directory : Option String) (link : Reference) : Build Text := do
  let external := isExternal link.target
  let address ←
    if external then pure (some link.target)
    else if isInternal link.target then do
      let told := s!"Keeping internal link '{String.ofList link.text}'"
      report .debug s!"{told} -> {String.ofList link.target} as plain text"
      pure none
    else uploadLocal setup directory (withoutAnchor link.target)
  match address with
  | none => return link.text
  | some address =>
      let token ← nextToken .link
      modify fun work =>
        { work with links := work.links ++ [⟨token, link.text, address, external⟩] }
      count fun stats => { stats with links := stats.links + 1 }
      return token

/-- Put tokens into text without code. -/
def processPlain (setup : Setup) (directory : Option String) (text : Text) : Build Text := do
  let replaced ← substitute (fun _ => imageAt?) (·.source.length) (replaceImage setup directory)
    none 0 text
  substitute linkAt? (·.source.length) (replaceLink setup directory) none 0 replaced

/-- Put tokens into the pieces of a text, leaving code as it is. -/
def processPieces (setup : Setup) (directory : Option String) :
    List (Bool × Text) → Build Text
  | [] => return []
  | (isCode, piece) :: rest => do
      let shown ← if isCode then pure piece else processPlain setup directory piece
      let following ← processPieces setup directory rest
      return shown ++ following

/-- Put a token for a diagram, when it can be rendered and uploaded. -/
def processDiagram (setup : Setup) (language body source : Text) : Build Text := do
  let unrendered : Build Text := do
    count fun stats => { stats with diagramsUnrendered := stats.diagramsUnrendered + 1 }
    return source
  match setup.renderer, setup.uploader with
  | some renderer, some uploader =>
      let lowered := Text.lower language
      let key := Digest.ofString (String.ofList (lowered ++ '\n' :: body))
      let address ← do
        match ← cached key with
        | some address => pure (some address)
        | none =>
            match (← render renderer body lowered).filter fun path => !path.isEmpty with
            | none => pure none
            | some path =>
                let result ← upload uploader path
                remember key result.url
                count fun stats => { stats with uploads := stats.uploads + 1 }
                pure (some result.url)
      match address with
      | none =>
          report .warning
            s!"Rendering {String.ofList language} diagram failed; leaving it unconverted"
          unrendered
      | some address =>
          let token ← nextToken .diagram
          let image : Image := ⟨token, address.toList, language ++ " diagram".toList, .diagram⟩
          modify fun work => { work with images := work.images ++ [image] }
          count fun stats => { stats with diagrams := stats.diagrams + 1 }
          return token
  | _, _ => unrendered

/-- Put tokens into a segment. -/
def processSegment (setup : Setup) (directory : Option String) : Segment → Build Text
  | .text source => processPieces setup directory (codePieces 0 source)
  | .fence language body source =>
      if Markdown.isDiagram setup.diagramLanguages language then
        processDiagram setup (language.getD []) body source
      else return source

/-- Put tokens into segments. -/
def processSegments (setup : Setup) (directory : Option String) :
    List Segment → Build (List Text)
  | [] => return []
  | segment :: rest => do
      let shown ← processSegment setup directory segment
      let following ← processSegments setup directory rest
      return shown :: following

/-- Put tokens into a document. Local paths start from `directory`. Also gives the state of the
builder afterwards, which a failure leaves as it was reached. -/
def build (setup : Setup) (markdown : Text) (directory : Option String) (state : BuilderState) :
    Except Failure Built × BuilderState :=
  let (result, work) :=
    (processSegments setup directory (segments markdown)).run ⟨state, [], [], .zero⟩
  (result.map fun pieces => ⟨Text.joinLines pieces, work.links, work.images, work.stats⟩,
    work.state)

end DocBinder.Placeholder
