import DocBinder.Project.Scan

/-!
# Selecting documents

A run writes all documents of a project, or those below one directory, or a single file. Paths of
documents always start from the project's directory, so that the same file has the same path in
every run.
-/

namespace DocBinder.Project

/-- Which documents a run is about: the one of a file, or those below a directory, else all. -/
structure Selection where
  file : Option String
  directory : Option String
deriving DecidableEq, Repr, Inhabited

/-- A path that is given and not empty. -/
def given (path : Option String) : Option String :=
  path.filter fun path => !path.isEmpty

/-- The path that leads from the project's directory to another one. -/
def placeOf (files : FileTree) (config : Config) (directory : String) : String :=
  Path.tidy (Path.relativeTo files.home directory config.docsDirectory)

/-- The documents below a directory, among all documents in their order. A directory outside the
project's is refused. -/
def belowDirectory (files : FileTree) (config : Config) (directory : String)
    (documents : List Sync.SourceDocument) : Except Failure (List Sync.SourceDocument) :=
  let place := placeOf files config directory
  if Text.startsWith place.toList ['.', '.'] then
    .error (SourceFile.refused directory "validate"
      s!"Directory is outside docs directory {config.docsDirectory}")
  else if place == "." then .ok documents
  else
    .ok (documents.filter fun document =>
      Text.startsWith document.path.toList (place.toList ++ ['/']))

/-- A result with its log, which holds what was reported before a failure too. -/
abbrev Logged (α : Type) := Except Failure α × List Log.Line

/-- The documents that are selected. -/
def selectDocuments (files : FileTree) (config : Config) (selection : Selection) :
    Logged (List Sync.SourceDocument) :=
  match given selection.file with
  | some path =>
      ((SourceFile.read files path (some config.docsDirectory)).map
          fun file => [file.document files],
        [⟨.info, .synchronization, s!"Single-file sync mode: {path}"⟩])
  | none =>
      match scanDocuments files config (some config.docsDirectory) with
      | .error failure => (.error failure, [])
      | .ok (documents, log) =>
          match given selection.directory with
          | none => (.ok documents, log)
          | some directory => (belowDirectory files config directory documents, log)

end DocBinder.Project
