import DocBinder.Digest.Sha256
import DocBinder.Project.Frontmatter
import DocBinder.Project.Title
import DocBinder.Sync.Coordinator

/-!
# Source files

A Markdown file of a project, split into front matter and body. A file is read only if it lies
inside its base directory, after links are followed, and is not too large.
-/

namespace DocBinder.Project

/-- A Markdown file: its path, its path from the base directory, its front matter, its body, and
its whole text. -/
structure SourceFile where
  path : String
  relativePath : String
  frontmatter : List (Value × Value)
  body : Text
  text : Text
deriving Repr, Inhabited

namespace SourceFile

/-- A failure of an operation on the file at a path. -/
def refused (path operation reason : String) : Failure :=
  .of (.filesystem path operation (some reason))

/-- Whether names from the root lead into a directory, or are its own. The root counts as holding
nothing but itself. -/
def isInside (base place : List String) : Bool :=
  base.isPrefixOf place && (!base.isEmpty || place.isEmpty)

/-- Refuse a path that leads out of a directory. -/
def checkInside (files : FileTree) (path base : String) : Except Failure Unit :=
  if isInside (files.realNames base) (files.realNames path) then .ok ()
  else .error (refused path "validate"
    s!"Path traversal detected: {path} is outside base directory {base}")

/-- The number of bytes that a file may have. -/
def maxSize : Nat := 10 * 1024 * 1024

/-- A number of bytes in units of 1024 · 1024, with a number of decimal places. -/
def megabytes (places : Nat) (size : Int) : String :=
  (if size < 0 then "-" else "") ++ Decimal.fixedPlaces size.natAbs (1024 * 1024) places

/-- Refuse a file with more bytes than a limit. -/
def checkSize (files : FileTree) (path : String) (limit : Int) : Except Failure Unit :=
  match files.size path with
  | .error refusal =>
      .error (refused path "stat" s!"Failed to check file size: {refusal.message path}")
  | .ok size =>
      if limit < size then
        .error (refused path "read" (s!"File size ({megabytes 2 size} MB) exceeds maximum "
          ++ s!"allowed size ({megabytes 0 limit} MB)."))
      else .ok ()

/-- The text of a file. -/
def readText (files : FileTree) (path : String) : Except Failure Text :=
  match files.readText path with
  | .error (.refused .notFound) => .error (refused path "read" "File not found")
  | .error (.refused refusal) => .error (refused path "read" (refusal.message path))
  | .error (.undecodable fault) => .error (refused path "read" fault.message)
  | .ok text => .ok text

/-- The directory that a file is read from when none is given: its own. -/
def directoryOf (files : FileTree) (path : String) : String :=
  Path.directoryOf (Path.absolute (Path.absoluteNames files.home path))

/-- Read the file at a path inside a base directory. -/
def read (files : FileTree) (path : String) (base : Option String) :
    Except Failure SourceFile := do
  let base := (base.filter fun base => !base.isEmpty).getD (directoryOf files path)
  checkInside files path base
  checkSize files path maxSize
  let text ← readText files path
  let frontmatter ← Frontmatter.ofText path text
  return ⟨path, Path.tidy (Path.relativeTo files.home path base), frontmatter.entries,
    frontmatter.body, text⟩

/-- The title of a file. -/
def title (file : SourceFile) : String :=
  titleOf file.frontmatter file.body file.path

/-- A file as a document to be written. Its digest covers the front matter, and its links start
from the directory in which it really lies. -/
def document (files : FileTree) (file : SourceFile) : Sync.SourceDocument :=
  ⟨file.relativePath, file.title, file.body, Digest.ofString (String.ofList file.text),
    some (Path.absolute (files.realNames file.path).dropLast)⟩

end SourceFile

end DocBinder.Project
