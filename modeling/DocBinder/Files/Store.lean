import DocBinder.Files.Tree

/-!
# Storing texts

A text is stored under a path, with the directories that lead to it. What fails is reported as an
operation on a path with a reason.
-/

namespace DocBinder

/-- An operation on a path that failed, and why. -/
structure StoreFault where
  path : String
  operation : String
  reason : String
deriving DecidableEq, Repr, Inhabited

namespace FileTree

/-- Make the directories that lead to a path. -/
def makeParents (files : FileTree) (path : String) : Except StoreFault FileTree :=
  let directory := Path.directoryOf path
  if directory.isEmpty then .ok files
  else (files.makeDirectories directory).mapError fun (refusal, shown) =>
    ⟨directory, "create_directory", refusal.message shown⟩

/-- Store a text under a path. -/
def store (files : FileTree) (path : String) (text : Text) : Except StoreFault FileTree := do
  let files ← files.makeParents path
  (files.write path (String.ofList text).toUTF8).mapError fun refusal =>
    ⟨path, "write", refusal.message path⟩

end FileTree

end DocBinder
