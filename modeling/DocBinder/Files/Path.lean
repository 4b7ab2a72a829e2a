import DocBinder.Text.Basic

/-!
# Paths

Paths as texts with slashes, without looking at any file. A path is cut into names; an absolute
one begins with a slash.
-/

namespace DocBinder.Path

/-- Whether a path begins at the root. -/
def isAbsolute (path : String) : Bool :=
  ['/'].isPrefixOf path.toList

/-- The names of a path, without empty ones. -/
def names (path : String) : List String :=
  ((Text.splitOn '/' path.toList).filter fun name => !name.isEmpty).map String.ofList

/-- The names of a path without the ones that stand for the current directory. -/
def steps (path : String) : List String :=
  (names path).filter (· != ".")

/-- A path of names from the root. -/
def absolute (names : List String) : String :=
  "/" ++ "/".intercalate names

/-- A path of names from the current directory. -/
def relative (names : List String) : String :=
  if names.isEmpty then "." else "/".intercalate names

/-- The root with which a path begins: none, one slash, or the two that keep a meaning of their
own. -/
def anchor (path : String) : String :=
  match path.toList with
  | '/' :: '/' :: '/' :: _ => "/"
  | '/' :: '/' :: _ => "//"
  | '/' :: _ => "/"
  | _ => ""

/-- A path with single slashes and without names for the current directory. -/
def tidy (path : String) : String :=
  let root := anchor path
  if root.isEmpty then relative (steps path) else root ++ "/".intercalate (steps path)

/-- A path below another; an absolute one stands for itself. -/
def below (directory path : String) : String :=
  if isAbsolute path || directory.isEmpty then path
  else if directory.toList.getLast? == some '/' then directory ++ path
  else directory ++ "/" ++ path

/-- Go up and down along names, where `..` goes up if there is something above. -/
def collapse (absolute : Bool) (taken : List String) : List String → List String
  | [] => taken.reverse
  | name :: rest =>
      if name != ".." then collapse absolute (name :: taken) rest
      else
        match taken with
        | [] => collapse absolute (if absolute then [] else [name]) rest
        | last :: before =>
            if last == ".." then collapse absolute (name :: taken) rest
            else collapse absolute before rest

/-- The shortest path of the same meaning, when no directory is a link. -/
def normalize (path : String) : String :=
  let root := anchor path
  let names := collapse (!root.isEmpty) [] (steps path)
  if root.isEmpty then relative names else root ++ "/".intercalate names

/-- The names from the root of a path that is taken from a directory. -/
def absoluteNames (home : List String) (path : String) : List String :=
  collapse true [] (if isAbsolute path then steps path else home ++ steps path)

/-- The number of names that two lists begin with in common. -/
def commonLength : List String → List String → Nat
  | first :: firsts, second :: seconds =>
      if first == second then commonLength firsts seconds + 1 else 0
  | _, _ => 0

/-- The path that leads from a directory to a path, both taken from `home`. -/
def relativeTo (home : List String) (path start : String) : String :=
  let target := absoluteNames home path
  let origin := absoluteNames home start
  let common := commonLength origin target
  relative (List.replicate (origin.length - common) ".." ++ target.drop common)

/-- The last name of a path, empty for a root and for the current directory. -/
def name (path : String) : String :=
  (steps path).getLast?.getD ""

/-- The names of the directory that holds a path. -/
def parentSteps (path : String) : List String :=
  let parents := (steps path).dropLast
  let root := anchor path
  if root.isEmpty then parents else root :: parents

/-- The place of the dot that begins a suffix: the last one, neither at the start nor at the end of
a name. -/
def suffixStart? (name : Text) : Option Nat :=
  let after := name.reverse.takeWhile (· != '.')
  let place := name.length - after.length - 1
  if after.length < name.length && 0 < place && !after.isEmpty then some place else none

/-- The suffix of a path's last name, with its dot. -/
def suffix (path : String) : String :=
  let name := (name path).toList
  match suffixStart? name with
  | some place => String.ofList (name.drop place)
  | none => ""

/-- The last name of a path without its suffix. -/
def stem (path : String) : String :=
  let name := (name path).toList
  match suffixStart? name with
  | some place => String.ofList (name.take place)
  | none => String.ofList name

/-- What stands before the last slash of a path, without slashes at its end. -/
def directoryOf (path : String) : String :=
  let characters := path.toList
  let after := characters.reverse.takeWhile (· != '/')
  let head := characters.take (characters.length - after.length)
  let trimmed := (head.reverse.dropWhile (· == '/')).reverse
  String.ofList (if trimmed.isEmpty then head else trimmed)

end DocBinder.Path
