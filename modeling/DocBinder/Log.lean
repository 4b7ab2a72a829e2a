/-!
# Log lines

What a run reports beside its result. A line has a level, the component it comes from and a
message. The component's name stands in log files.
-/

namespace DocBinder.Log

/-- How serious a line is. -/
inductive Level where
  | debug
  | info
  | warning
  | error
deriving DecidableEq, Repr, Inhabited

/-- The rank of a level: a log that shows a level shows all of higher rank. -/
def Level.rank : Level → Nat
  | .debug => 0
  | .info => 1
  | .warning => 2
  | .error => 3

/-- The name of a level as a log line shows it. -/
def Level.name : Level → String
  | .debug => "DEBUG"
  | .info => "INFO"
  | .warning => "WARNING"
  | .error => "ERROR"

/-- The components that report. -/
inductive Source where
  | classifier
  | compiler
  | positions
  | cells
  | replacements
  | placeholders
  | coordinator
  | retry
  | remote
  | credentials
  | mapper
  | initialization
  | synchronization
  | commandLine
deriving DecidableEq, Repr, Inhabited

/-- The name of a component as a log file shows it. -/
def Source.name : Source → String
  | .classifier => "src.markdown_compiler.block_classifier"
  | .compiler => "src.markdown_compiler.mutation_compiler"
  | .positions => "src.reconciliation.position_resolver"
  | .cells => "src.reconciliation.table_cell_locator"
  | .replacements => "src.reconciliation.placeholder_resolver"
  | .placeholders => "src.sync_engine.placeholder_builder"
  | .coordinator => "src.sync_engine.phase_coordinator"
  | .retry => "src.gdocs_client.retry_logic"
  | .remote => "src.gdocs_client.api_wrapper"
  | .credentials => "src.gdocs_client.auth"
  | .mapper => "src.file_mapper.file_mapper"
  | .initialization => "src.cli.init_command"
  | .synchronization => "src.cli.sync_command"
  | .commandLine => "src.cli.main"

/-- One line of a log. -/
structure Line where
  level : Level
  source : Source
  message : String
deriving DecidableEq, Repr, Inhabited

/-- Whether a line is a warning or worse. -/
def Line.isAlert (line : Line) : Bool :=
  Level.warning.rank ≤ line.level.rank

/-- A line as its level and message. -/
def Line.summary (line : Line) : String :=
  line.level.name ++ ": " ++ line.message

/-- A line as a terminal shows it, with the time of day: levels are aligned to the right. -/
def Line.terminalText (line : Line) (time : String) : String :=
  let level := line.level.name
  let blanks := String.ofList (List.replicate (8 - level.length) ' ')
  s!"{time} [{blanks}{level}] {line.message}\n"

/-- A line as a log file holds it, with the time of day. -/
def Line.fileText (line : Line) (time : String) : String :=
  s!"{time} - {line.source.name} - {line.level.name} - {line.message}\n"

/-- The least serious level that is shown: warnings, information from a verbosity of one on, and
everything at any other. -/
def threshold (verbosity : Int) : Level :=
  if verbosity == 0 then .warning else if verbosity == 1 then .info else .debug

/-- The lines of a log that are shown. -/
def shown (verbosity : Int) (lines : List Line) : List Line :=
  lines.filter fun line => (threshold verbosity).rank ≤ line.level.rank

/-- The warnings and errors of a log, each with its level. -/
def alerts (lines : List Line) : List String :=
  (lines.filter Line.isAlert).map Line.summary

end DocBinder.Log
