import DocBinder.Project.Config
import DocBinder.Project.Glob
import DocBinder.Project.Order

/-!
# Scanning a project

The Markdown files below a directory, in their order. Links to directories are not followed. A file
that cannot be read is left out with a warning.
-/

namespace DocBinder.Project

/-- A line of the log of a scan. -/
def scanLine (level : Log.Level) (message : String) : Log.Line :=
  ⟨level, .mapper, message⟩

/-- Whether a path leads to a link. -/
def isLink (files : FileTree) (path : String) : Bool :=
  match files.locate false path with
  | .ok names => match files.node? names with
    | some (.link _) => true
    | _ => false
  | .error _ => false

/-- The paths of the files below a directory, those of the directory itself first. `depth` bounds
how far down directories are nested. -/
def filesBelow (files : FileTree) (depth : Nat) (directory : String) : List String :=
  match depth with
  | 0 => []
  | depth + 1 =>
      let names := ((files.locate true directory).map files.entries).toOption.getD []
      let (directories, others) :=
        names.partition fun name => files.isDirectory (Path.below directory name)
      let walked := (directories.mergeSort fun first second => first ≤ second).filter
        fun name => !isLink files (Path.below directory name)
      others.map (Path.below directory)
        ++ walked.flatMap fun name => filesBelow files depth (Path.below directory name)

/-- The number of names that the longest path in a tree has. -/
def depthOf (files : FileTree) : Nat :=
  (files.nodes.map (·.1.length)).foldl max 0

/-- What became of a file that was found: it was read, or left out with a line for the log. -/
def readFound (files : FileTree) (config : Config) (root path : String) :
    Option (SourceFile ⊕ Log.Line) :=
  if !matchesAny config.filePatterns (Path.name path) then none
  else
    let relative := Path.tidy (Path.relativeTo files.home path root)
    if matchesAny config.excludePatterns relative then
      some (.inr (scanLine .debug s!"Excluded {relative}"))
    else
      match SourceFile.read files path (some root) with
      | .ok file => some (.inl file)
      | .error failure => some (.inr (scanLine .warning
          s!"Failed to read {path}: {failure.message} - skipping"))

/-- The Markdown files below a directory, which is that of the configuration when none is given,
and the log. -/
def scan (files : FileTree) (config : Config) (directory : Option String) :
    Except Failure (List SourceFile × List Log.Line) :=
  let root := (directory.filter fun directory => !directory.isEmpty).getD config.docsDirectory
  if !files.isDirectory root then
    .error (SourceFile.refused root "read" "Directory does not exist")
  else
    let found := (filesBelow files (depthOf files + 1) root).filterMap (readFound files config root)
    let sorted := sortByKey (fun file => OrderKey.of file.relativePath file.frontmatter)
      (found.filterMap Sum.getLeft?)
    .ok (sorted, found.filterMap Sum.getRight?
      ++ [scanLine .debug s!"Found {sorted.length} markdown file(s) in {root}"])

/-- The documents below a directory, and the log. -/
def scanDocuments (files : FileTree) (config : Config) (directory : Option String) :
    Except Failure (List Sync.SourceDocument × List Log.Line) :=
  (scan files config directory).map fun (found, log) =>
    (found.map (SourceFile.document files), log)

end DocBinder.Project
