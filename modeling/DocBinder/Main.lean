import DocBinder.Access.Offline
import DocBinder.CommandLine.Program
import Std.Time.Format

/-!
# The executable

Reads the files below the current directory, runs the program on them, and writes what it has
changed. A link is read as the file it leads to; a link to a directory is left out, so that reading
comes to an end.
-/

namespace DocBinder.Main

open CommandLine

/-- How far down directories are read. -/
def maxDepth : Nat := 64

/-- The files and directories among the entries of a directory and below them. What cannot be read
is left out. -/
def readNodes (depth : Nat) (names : List String) (entries : Array IO.FS.DirEntry) :
    IO (List (List String × Node)) := do
  match depth with
  | 0 => return []
  | depth + 1 =>
      let nodes ← entries.toList.mapM fun entry => do
        let place := names ++ [entry.fileName]
        try
          match (← entry.path.symlinkMetadata).type with
          | .dir =>
              return (place, Node.directory) :: (← readNodes depth place (← entry.path.readDir))
          | _ => return [(place, Node.file (← IO.FS.readBinFile entry.path))]
        catch _ => return []
      return nodes.flatten

/-- Write a node that was changed. -/
def writeNode (before : FileTree) (names : List String) (node : Node) : IO Unit := do
  match node, before.node? names with
  | .directory, none => IO.FS.createDirAll (Path.absolute names)
  | .file content, some (.file old) =>
      if content != old then IO.FS.writeBinFile (Path.absolute names) content
  | .file content, _ =>
      IO.FS.createDirAll (Path.absolute names.dropLast)
      IO.FS.writeBinFile (Path.absolute names) content
  | _, _ => return

/-- A date in digits: year, month and day. -/
def dateDigits (moment : Std.Time.PlainDateTime) : List String :=
  [padZeros 4 moment.date.year.toInt.toNat, padZeros 2 moment.date.month.val.toNat,
    padZeros 2 moment.date.day.val.toNat]

/-- A time of the day in digits: hour, minute and second. -/
def timeDigits (moment : Std.Time.PlainDateTime) : List String :=
  [moment.time.hour.val, moment.time.minute.val, moment.time.second.val].map fun number =>
    padZeros 2 number.toNat

/-- The times of a moment, given as it is where the program runs and in universal time. -/
def timesOf (here universal : Std.Time.PlainDateTime) : Times where
  log := "-".intercalate (dateDigits here) ++ " " ++ ":".intercalate (timeDigits here)
  file := String.join (dateDigits here) ++ "_" ++ String.join (timeDigits here)
  stored := "-".intercalate (dateDigits universal) ++ "T"
    ++ ":".intercalate (timeDigits universal) ++ "Z"

/-- The current times. -/
def currentTimes : IO Times := do
  let moment ← Std.Time.Timestamp.now
  let universal := Std.Time.PlainDateTime.ofWallTime (moment.toWallTime .zero)
  return timesOf (← Std.Time.PlainDateTime.now) universal

/-- The settings of the environment that credentials need. -/
def readEnvironment : IO (String → Option String) := do
  let id ← IO.getEnv "GOOGLE_CLIENT_ID"
  let secret ← IO.getEnv "GOOGLE_CLIENT_SECRET"
  return fun name =>
    if name == "GOOGLE_CLIENT_ID" then id
    else if name == "GOOGLE_CLIENT_SECRET" then secret
    else none

end DocBinder.Main

open DocBinder DocBinder.Main in
/-- Run the program in the current directory. -/
def main (arguments : List String) : IO UInt32 := do
  let directory ← IO.currentDir
  let home := Path.names directory.toString
  let before : FileTree := ⟨home, (← readNodes maxDepth home (← directory.readDir))⟩
  let service := Access.Offline.start (← readEnvironment)
  let (transcript, after, _) :=
    (⟨Access.Offline.remote, ← currentTimes⟩ : CommandLine.Program _).run arguments before service
  for (names, node) in after.nodes do
    writeNode before names node
  IO.print (String.ofList transcript.output)
  IO.eprint (String.ofList transcript.errors ++ transcript.lastWords)
  return transcript.exit.toUInt32
