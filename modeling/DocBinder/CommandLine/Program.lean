import DocBinder.CommandLine.Arguments
import DocBinder.Project.Initialize
import DocBinder.Project.Synchronize

/-!
# The program

One invocation of the program: it reads its arguments, initializes a project or synchronizes it, and
shows what it has to say on the terminal, in the log, and by its exit code.
-/

namespace DocBinder.CommandLine

open Docs Project

/-- What an invocation leaves behind on the terminal, and the failure that ended it if nothing told
of it. -/
structure Transcript where
  exit : Nat
  output : Text
  errors : Text
  untold : Option Failure
deriving Repr, Inhabited

namespace Transcript

/-- A transcript of texts. -/
def of (exit : Nat) (output errors : String) : Transcript :=
  ⟨exit, output.toList, errors.toList, none⟩

/-- The transcript of an invocation that a failure ended. -/
def ended (output errors : Text) (failure : Failure) : Transcript :=
  ⟨ExitCode.failure.number, output, errors, some failure⟩

/-- What is said of the failure that nothing told of. -/
def lastWords (transcript : Transcript) : String :=
  match transcript.untold with
  | some failure => s!"{failure.kind}: {failure.message}\n"
  | none => ""

end Transcript

/-- The times at which an invocation runs: as log lines show it, as the name of a log file holds it,
and as it is stored. -/
structure Times where
  log : String
  file : String
  stored : String
deriving DecidableEq, Repr, Inhabited

/-- The program with a remote. -/
structure Program (σ : Type) where
  remote : Remote σ
  times : Times

/-- What is shown when nothing is asked for in a directory without a project. -/
def quickStart : String :=
  "gdocs-sync                        # Sync changed documents\n\n"
    ++ "--init --dir <folder> [--title T]  # Initialize\n"
    ++ "--dry-run                          # Preview what would be written\n"
    ++ "--force                            # Rebuild even when nothing changed\n"
    ++ "--help                             # Show all options\n\n"
    ++ "Example:\n  gdocs-sync --init --dir ./docs --title \"Team Handbook\"\n"

/-- What is shown when help is asked for. -/
def helpText : String :=
  "Usage: main-command [OPTIONS] [file]\n\n"
    ++ "  Publish local Markdown files into a single Google Doc.\n\n"
    ++ "Options:\n"
    ++ "  --init                   Initialize sync configuration (requires --dir)\n"
    ++ "  --dir DIR                Docs directory (with --init) or subdirectory to sync\n"
    ++ "  --title TEXT             With --init: title of the Google Doc created on first sync\n"
    ++ "  --dry-run, --dryrun      Compile documents and preview without touching Google Docs\n"
    ++ "  --force                  Rebuild the document even when no file changed\n"
    ++ "  --logdir TEXT            Directory for log files (creates timestamped log file)\n"
    ++ "  -v, --verbosity INTEGER  Verbosity level: 0=summary, 1=info, 2=debug\n"
    ++ "  --no-color               Disable colored output\n"
    ++ "  -V, --version            Show version and exit\n"
    ++ "  --help                   Show this message and exit.\n"

/-- What is shown when the version is asked for. -/
def versionText : String :=
  "gdocs-sync version 0.1.0\n"

/-- What is shown when a project is to be initialized without a directory. -/
def missingDirectory : Transcript :=
  .of 1 "\nExample:\n  gdocs-sync --init --dir ./docs\n"
    "Error: Missing required option(s): --dir\n"

namespace Program

variable {σ : Type}

/-- What a log shows on the terminal. -/
def logText (program : Program σ) (verbosity : Int) (log : List Log.Line) : Text :=
  (Log.shown verbosity log).flatMap fun line => (line.terminalText program.times.log).toList

/-! ## Initializing -/

/-- What is told before a project is initialized. -/
def openingNotices (directory : String) : List Notice :=
  [.info "Initializing sync configuration...", .info s!"  Docs directory: {directory}"]

/-- What is told after a project was initialized. -/
def initializedNotices (config : Config) : List Notice :=
  .success "Configuration initialized successfully"
    :: [s!"  Config file: {Preparation.defaultConfigPath}", s!"  Document title: {config.title}",
      "", "Next steps:",
      "  1. Set GOOGLE_CLIENT_ID and GOOGLE_CLIENT_SECRET (or add them to .env)",
      "  2. Run 'gdocs-sync' to publish your documents"].map .info

/-- Initialize a project below a directory. -/
def initProject (program : Program σ) (arguments : Arguments) (directory : String)
    (files : FileTree) : Transcript × FileTree :=
  let (result, after) :=
    (Preparation.setUp Preparation.defaultConfigPath directory arguments.title).run ⟨files, []⟩
  let (notices, lines, exit) : List Notice × List Log.Line × ExitCode := match result with
    | .ok config => (initializedNotices config, [], .success)
    | .error failure =>
        let message := s!"Initialization failed: {failure.message}"
        ([.error message], [⟨.error, .commandLine, message⟩], .failure)
  let errors := program.logText arguments.verbosity (after.log ++ lines)
  match shownAll arguments.verbosity (openingNotices directory ++ notices) with
  | .ok output => (⟨exit.number, output, errors, none⟩, after.files)
  | .error failure => (.ended [] errors failure, after.files)

/-! ## Synchronizing -/

/-- The path of the log file in a directory. -/
def logPath (program : Program σ) (directory : String) : String :=
  Path.tidy (Path.below directory s!"gdocs-sync_{program.times.file}.log")

/-- Make the log file, if one is asked for. Gives its path and the first line of the log. -/
def openLog (program : Program σ) (arguments : Arguments) (files : FileTree) :
    Except Failure (FileTree × Option String × List Log.Line) :=
  match given arguments.logDirectory with
  | none => .ok (files, none, [])
  | some directory => do
      let files ← (files.makeDirectories directory).mapError fun (refusal, path) =>
        refusal.failure path
      let path := program.logPath directory
      let files ← (files.write path .empty).mapError fun refusal => refusal.failure path
      return (files, some path, [⟨.info, .commandLine, s!"Logging to file: {path}"⟩])

/-- Write the log to the log file, if there is one. -/
def closeLog (program : Program σ) (verbosity : Int) (path : Option String)
    (log : List Log.Line) (files : FileTree) : FileTree :=
  match path with
  | none => files
  | some path =>
      let text := (Log.shown verbosity log).map fun line => line.fileText program.times.log
      (files.write path (String.join text).toUTF8).toOption.getD files

/-- Synchronize the project. -/
def synchronize (program : Program σ) (arguments : Arguments) (files : FileTree) (service : σ) :
    Transcript × FileTree × σ :=
  match program.openLog arguments files with
  | .error failure => (.ended [] [] failure, files, service)
  | .ok (files, path, lines) =>
      let runner : Runner σ := ⟨program.remote, none, none, arguments.verbosity,
        program.times.stored, Preparation.defaultConfigPath, defaultStatePath⟩
      let order : Order := ⟨arguments.dryRun, arguments.force, arguments.file, arguments.directory⟩
      let (result, after) := (runner.run order).run ⟨files, service, .initial, [], lines⟩
      let errors := program.logText arguments.verbosity after.log
      let transcript : Transcript := match result with
        | .ok code => ⟨code.number, after.output, errors, none⟩
        | .error failure => .ended after.output errors failure
      (transcript, program.closeLog arguments.verbosity path after.log after.files, after.remote)

/-! ## Invocations -/

/-- Whether the command line asks for nothing in particular. -/
def asksNothing (arguments : Arguments) : Bool :=
  !arguments.dryRun && !arguments.force && arguments.file.isNone && arguments.directory.isNone
    && arguments.logDirectory.isNone && arguments.verbosity == 0 && !arguments.noColor

/-- Do what the command line asks for. -/
def perform (program : Program σ) (arguments : Arguments) (files : FileTree) (service : σ) :
    Transcript × FileTree × σ :=
  if arguments.help then (.of 0 helpText "", files, service)
  else if arguments.version then (.of 0 versionText "", files, service)
  else if arguments.init then
    match arguments.directory with
    | none => (missingDirectory, files, service)
    | some directory =>
        let (transcript, files) := program.initProject arguments directory files
        (transcript, files, service)
  else if asksNothing arguments && !files.contains Preparation.defaultConfigPath then
    (.of 0 quickStart "", files, service)
  else program.synchronize arguments files service

/-- Run the program with a command line. -/
def run (program : Program σ) (commandLine : List String) (files : FileTree) (service : σ) :
    Transcript × FileTree × σ :=
  match Arguments.ofList commandLine with
  | .error fault => (.of 2 "" fault.message, files, service)
  | .ok arguments => program.perform arguments files service

end Program

end DocBinder.CommandLine
