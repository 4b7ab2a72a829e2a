import DocBinder.Failure
import DocBinder.Files.Path
import DocBinder.Text.Utf8

/-!
# A tree of files

The files that a run sees, as a value: directories, files with their bytes, and symbolic links,
each under its names from the root. Paths are taken from a home directory. Every operation that can
fail says why in the words of the file system.
-/

namespace DocBinder

/-- What stands at a place of the tree. A file may consist of null bytes only, of which no more than
the number is known. -/
inductive Node where
  | directory
  | file (content : ByteArray)
  | sparse (size : Nat)
  | link (target : String)
deriving Inhabited

/-- Whether a node is a file. -/
def Node.isFile : Node → Bool
  | .file _ | .sparse _ => true
  | _ => false

/-- Why the file system refuses an operation. -/
inductive Refusal where
  | notFound
  | exists
  | notDirectory
  | isDirectory
  | nameTooLong
  | linkLoop
deriving DecidableEq, Repr, Inhabited

namespace Refusal

/-- The number of a refusal. -/
def code : Refusal → Nat
  | .notFound => 2
  | .exists => 17
  | .notDirectory => 20
  | .isDirectory => 21
  | .nameTooLong => 36
  | .linkLoop => 40

/-- A refusal in words. -/
def text : Refusal → String
  | .notFound => "No such file or directory"
  | .exists => "File exists"
  | .notDirectory => "Not a directory"
  | .isDirectory => "Is a directory"
  | .nameTooLong => "File name too long"
  | .linkLoop => "Too many levels of symbolic links"

/-- The name of the kind of failure that a refusal is. -/
def kind : Refusal → String
  | .notFound => "FileNotFoundError"
  | .exists => "FileExistsError"
  | .notDirectory => "NotADirectoryError"
  | .isDirectory => "IsADirectoryError"
  | .nameTooLong => "OSError"
  | .linkLoop => "OSError"

/-- The report of a refusal for a path. -/
def message (refusal : Refusal) (path : String) : String :=
  s!"[Errno {refusal.code}] {refusal.text}: {Value.quoteText path}"

/-- The failure that a refusal for a path is. -/
def failure (refusal : Refusal) (path : String) : Failure :=
  .foreign refusal.kind (refusal.message path)

end Refusal

/-- A tree of files, with the names of the home directory. -/
structure FileTree where
  home : List String
  nodes : List (List String × Node)
deriving Inhabited

namespace FileTree

/-- The node under names from the root. The directories that lead to the home directory are always
there. -/
def node? (tree : FileTree) (names : List String) : Option Node :=
  match tree.nodes.lookup names with
  | some node => some node
  | none => if names.isPrefixOf tree.home then some .directory else none

/-- Put a node under names from the root, in the place of an earlier one. -/
def put (tree : FileTree) (names : List String) (node : Node) : FileTree :=
  let replaced := tree.nodes.map fun entry =>
    if entry.1 == names then (names, node) else entry
  { tree with
    nodes := if (tree.nodes.lookup names).isSome then replaced else tree.nodes ++ [(names, node)] }

/-- The number of links a path may lead through. -/
def maxLinks : Nat := 40

/-- Walk along names from a place to the names of an existing node. `follow` tells whether a link
at the end is followed as well, and `goOn` walks on from a place that a link leads to. -/
def walkNames (tree : FileTree) (follow : Bool)
    (goOn : List String → List String → Except Refusal (List String)) (place : List String) :
    List String → Except Refusal (List String)
  | [] => .ok place
  | name :: rest =>
      match tree.node? place with
      | some .directory =>
          if name == ".." then walkNames tree follow goOn place.dropLast rest
          else if name.utf8ByteSize > 255 then .error .nameTooLong
          else
            let next := place ++ [name]
            match tree.node? next with
            | none => .error .notFound
            | some (.link target) =>
                if rest.isEmpty && !follow then .ok next
                else
                  let origin := if Path.isAbsolute target then [] else place
                  goOn origin (Path.steps target ++ rest)
            | some _ => walkNames tree follow goOn next rest
      | _ => .error .notDirectory

/-- Walk along names from a place, through no more than `links` links. -/
def walk (tree : FileTree) (follow : Bool) :
    (links : Nat) → (place rest : List String) → Except Refusal (List String)
  | 0 => walkNames tree follow fun _ _ => .error .linkLoop
  | links + 1 => walkNames tree follow (walk tree follow links)

/-- The names of the existing node that a path leads to. -/
def locate (tree : FileTree) (follow : Bool) (path : String) : Except Refusal (List String) := do
  if path.isEmpty then .error .notFound
  else
    let origin := if Path.isAbsolute path then [] else tree.home
    let names ← walk tree follow maxLinks origin (Path.steps path)
    if path.toList.getLast? == some '/' && (tree.node? names).any Node.isFile then
      .error .notDirectory
    else return names

/-- The node that a path leads to. -/
def stat (tree : FileTree) (path : String) : Except Refusal Node := do
  match tree.node? (← tree.locate true path) with
  | some node => return node
  | none => .error .notFound

/-- Whether a path leads to anything. -/
def contains (tree : FileTree) (path : String) : Bool :=
  (tree.stat path).toOption.isSome

/-- Whether a path leads to a directory. -/
def isDirectory (tree : FileTree) (path : String) : Bool :=
  match tree.stat path with
  | .ok .directory => true
  | _ => false

/-- Whether a path leads to a file. -/
def isFile (tree : FileTree) (path : String) : Bool :=
  match tree.stat path with
  | .ok node => node.isFile
  | .error _ => false

/-- The size a directory is reported with. -/
def directorySize : Nat := 4096

/-- The size of what a path leads to. -/
def size (tree : FileTree) (path : String) : Except Refusal Nat := do
  match ← tree.stat path with
  | .file content => return content.size
  | .sparse size => return size
  | _ => return directorySize

/-- The bytes of a file. -/
def read (tree : FileTree) (path : String) : Except Refusal ByteArray := do
  match ← tree.stat path with
  | .file content => return content
  | .sparse size => return ⟨Array.replicate size 0⟩
  | _ => .error .isDirectory

/-- What reading a text file can fail with. -/
inductive TextFault where
  | refused (refusal : Refusal)
  | undecodable (fault : Text.Utf8Fault)
deriving Repr

/-- The text of a file, with every line end as a line feed. -/
def readText (tree : FileTree) (path : String) : Except TextFault Text :=
  match tree.read path with
  | .error refusal => .error (.refused refusal)
  | .ok bytes =>
      match Text.decodeUtf8 bytes.data.toList with
      | .error fault => .error (.undecodable fault)
      | .ok text => .ok (Text.normalizeNewlines text)

/-- Make the node of a path, whose directory must exist. -/
def write (tree : FileTree) (path : String) (content : ByteArray) : Except Refusal FileTree :=
  match tree.locate true path with
  | .ok names =>
      match tree.node? names with
      | some .directory => .error .isDirectory
      | _ => .ok (tree.put names (.file content))
  | .error .notFound => do
      match (Path.steps path).getLast? with
      | none => .error .notFound
      | some name =>
          if name == ".." || path.toList.getLast? == some '/' then .error .isDirectory
          else
            let directory := Path.directoryOf path
            let names ← tree.locate true (if directory.isEmpty then "." else directory)
            match tree.node? (names ++ [name]) with
            | some (.link target) =>
                let origin := if Path.isAbsolute target then [] else names
                let steps := Path.steps target
                match steps.getLast? with
                | none => .error .isDirectory
                | some last =>
                    let parent ← walk tree true maxLinks origin steps.dropLast
                    return tree.put (parent ++ [last]) (.file content)
            | _ => return tree.put (names ++ [name]) (.file content)
  | .error refusal => .error refusal

/-- Make a directory at a path whose own directory must exist. -/
def makeDirectory (tree : FileTree) (path : String) : Except Refusal FileTree :=
  match tree.locate false path with
  | .ok _ => .error .exists
  | .error .notFound => do
      let directory := Path.directoryOf (String.ofList
        (path.toList.reverse.dropWhile (· == '/')).reverse)
      let names ← tree.locate true (if directory.isEmpty then "." else directory)
      match (Path.steps path).getLast? with
      | some name =>
          match tree.node? names with
          | some .directory => return tree.put (names ++ [name]) .directory
          | _ => .error .notDirectory
      | none => .error .notFound
  | .error refusal => .error refusal

/-- The paths of the directories that lead to a path, the outermost first. -/
def leadingPaths (path : String) : List String :=
  let root := if Path.isAbsolute path then "/" else ""
  let names := Path.names path
  (List.range names.length).map fun count => root ++ "/".intercalate (names.take (count + 1))

/-- Make a directory and all that lead to it, where those that are there already are kept. A
refusal comes with the path it is about. -/
def makeDirectories (tree : FileTree) (path : String) : Except (Refusal × String) FileTree :=
  if tree.isDirectory path then .ok tree
  else
    let paths := leadingPaths path
    let missing := (paths.reverse.dropWhile fun leading => !tree.contains leading).length
    (paths.drop missing).foldl
      (fun made leading => do
        let tree ← made
        let shown := if leading == paths.getLastD "" then path else leading
        (tree.makeDirectory leading).mapError (·, shown))
      (if missing == paths.length then .error (.exists, path) else .ok tree)

/-- Take away what stands at a path, with everything below it. -/
def remove (tree : FileTree) (path : String) : FileTree :=
  match tree.locate false path with
  | .ok names => { tree with nodes := tree.nodes.filter fun entry => !names.isPrefixOf entry.1 }
  | .error _ => tree

/-- The names in a directory. -/
def entries (tree : FileTree) (names : List String) : List String :=
  tree.nodes.filterMap fun entry =>
    if entry.1.length == names.length + 1 && names.isPrefixOf entry.1 then entry.1.getLast?
    else none

/-- Go along names, keeping what does not exist as it is written. `goOn` goes along what a link leads
to from a place; a link that is being followed already, or that leads nowhere, ends the walk
there. -/
def followNames (tree : FileTree) (opened : List (List String))
    (goOn : List (List String) → List String → List String → List String × Bool)
    (place : List String) : List String → List String × Bool
  | [] => (place, true)
  | name :: rest =>
      if name == ".." then followNames tree opened goOn place.dropLast rest
      else
        let next := place ++ [name]
        match tree.node? next with
        | some (.link target) =>
            if opened.contains next then (next ++ rest, false)
            else
              let origin := if Path.isAbsolute target then [] else place
              let (reached, complete) := goOn (next :: opened) origin (Path.steps target)
              if complete then followNames tree opened goOn reached rest
              else (reached ++ rest, false)
        | _ => followNames tree opened goOn next rest

/-- Go along names from a place, through links nested no deeper than `links`. `opened` lists the links
that are being followed. -/
def follow (tree : FileTree) :
    (links : Nat) → (opened : List (List String)) → (place rest : List String) →
      List String × Bool
  | 0, opened => followNames tree opened fun opened _ _ => (opened.headD [], false)
  | links + 1, opened => followNames tree opened (follow tree links)

/-- The names from the root of the place that a path leads to, whether it exists or not. -/
def realNames (tree : FileTree) (path : String) : List String :=
  let origin := if Path.isAbsolute path then [] else tree.home
  let (names, _) := follow tree (tree.nodes.length + maxLinks) [] origin (Path.steps path)
  Path.collapse true [] names

/-- The path from the root of the place that a path leads to. -/
def realPath (tree : FileTree) (path : String) : String :=
  Path.absolute (tree.realNames path)

end FileTree

end DocBinder
