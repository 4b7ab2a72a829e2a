import DocBinder.Decimal.Numeral
import DocBinder.Text.Similar

/-!
# Arguments

What the command line asks for. Options may stand before and after the file; a value follows its
option as the next argument, after an equals sign, or directly after a single letter. After two
hyphens everything is a file. Of an option that is given twice, the last value counts.
-/

namespace DocBinder.CommandLine

/-- What the command line asks for. -/
structure Arguments where
  file : Option String
  init : Bool
  directory : Option String
  title : Option String
  dryRun : Bool
  force : Bool
  logDirectory : Option String
  verbosity : Int
  noColor : Bool
  version : Bool
  help : Bool
deriving DecidableEq, Repr, Inhabited

/-- What no arguments ask for. -/
def Arguments.empty : Arguments :=
  ⟨none, false, none, none, false, false, none, 0, false, false, false⟩

/-- The options. -/
inductive OptionName where
  | init
  | directory
  | title
  | dryRun
  | force
  | logDirectory
  | verbosity
  | noColor
  | version
  | help
deriving DecidableEq, Repr, Inhabited

namespace OptionName

/-- Whether an option has a value. -/
def takesValue : OptionName → Bool
  | .directory | .title | .logDirectory | .verbosity => true
  | _ => false

/-- The long names of the options. -/
def longNames : List (String × OptionName) :=
  [("--init", .init), ("--dir", .directory), ("--title", .title), ("--dry-run", .dryRun),
    ("--dryrun", .dryRun), ("--force", .force), ("--logdir", .logDirectory),
    ("--verbosity", .verbosity), ("--no-color", .noColor), ("--version", .version),
    ("--help", .help)]

/-- The option of a single letter. -/
def ofLetter? : Char → Option OptionName
  | 'v' => some .verbosity
  | 'V' => some .version
  | _ => none

end OptionName

/-- What is wrong with a command line. -/
inductive UsageFault where
  | unknownOption (name : String)
  | missingValue (name : String)
  | unwantedValue (name : String)
  | badVerbosity
  | extraArguments (arguments : List String)
deriving DecidableEq, Repr, Inhabited

namespace UsageFault

/-- The options that someone may have meant by a long name that is unknown. -/
def hint (name : String) : String :=
  let known := OptionName.longNames.map fun entry => entry.1.toList
  let alike :=
    if Text.startsWith name.toList ['-', '-'] then Text.mostAlike name.toList known else []
  match (alike.map String.ofList).mergeSort fun first second => first ≤ second with
  | [] => ""
  | [option] => s!" Did you mean {option}?"
  | options => " (Possible options: " ++ ", ".intercalate options ++ ")"

/-- A fault in words. -/
def reason : UsageFault → String
  | .unknownOption name => s!"No such option: {name}" ++ hint name
  | .missingValue name => s!"Option '{name}' requires an argument."
  | .unwantedValue name => s!"Option '{name}' does not take a value."
  | .badVerbosity => "Invalid value for '--verbosity' / '-v': Input should be a valid integer, "
      ++ "unable to parse string as an integer"
  | .extraArguments arguments =>
      "Got unexpected extra argument(s) (" ++ " ".intercalate arguments ++ ")"

/-- Whether the usage of the program is shown with a fault. -/
def showsUsage : UsageFault → Bool
  | .missingValue _ | .unwantedValue _ => false
  | _ => true

/-- What is said about a fault. -/
def message (fault : UsageFault) : String :=
  (if fault.showsUsage then
    "Usage: main-command [OPTIONS] [file]\nTry 'main-command --help' for help.\n\n" else "")
    ++ s!"Error: {fault.reason}\n"

end UsageFault

/-- Something that the command line gives: an option, with its value if it takes one, or an argument
that is none. -/
inductive Item where
  | option (name : OptionName) (value : String)
  | positional (text : String)
deriving DecidableEq, Repr, Inhabited

/-- A value after an equals sign, and what stands before it. -/
def splitValue (argument : Text) : Text × Option Text :=
  match argument.dropWhile (· != '=') with
  | _ :: value => (argument.takeWhile (· != '='), some value)
  | [] => (argument, none)

/-- The options of letters after a hyphen, and the one at their end that still needs a value. What
follows a letter that takes a value is its value. -/
def letterItems : Text → Except UsageFault (List Item × Option (String × OptionName))
  | [] => .ok ([], none)
  | letter :: rest =>
      let shown := String.ofList ['-', letter]
      match OptionName.ofLetter? letter with
      | none => .error (.unknownOption shown)
      | some option =>
          if !option.takesValue then
            (letterItems rest).map fun (items, open?) => (.option option "" :: items, open?)
          else if rest.isEmpty then .ok ([], some (shown, option))
          else .ok ([.option option (String.ofList rest)], none)

/-- The options that an argument stands for, and the one that still needs a value. -/
def argumentItems (argument : Text) :
    Except UsageFault (List Item × Option (String × OptionName)) :=
  let (name, value) := splitValue argument
  let shown := String.ofList name
  match OptionName.longNames.lookup shown, value with
  | some option, some value =>
      if option.takesValue then .ok ([.option option (String.ofList value)], none)
      else .error (.unwantedValue shown)
  | some option, none =>
      if option.takesValue then .ok ([], some (shown, option)) else .ok ([.option option ""], none)
  | none, _ =>
      if Text.startsWith argument ['-', '-'] then .error (.unknownOption shown)
      else letterItems (argument.drop 1)

/-- What a list of arguments gives, in order. `pending` is the option that takes the next argument
as its value. -/
def items (pending : Option (String × OptionName)) : List String → Except UsageFault (List Item)
  | [] =>
      match pending with
      | some (shown, _) => .error (.missingValue shown)
      | none => .ok []
  | argument :: rest =>
      match pending with
      | some (_, option) => (items none rest).map fun later => .option option argument :: later
      | none =>
          if argument == "--" then .ok (rest.map .positional)
          else if Text.startsWith argument.toList ['-'] && argument != "-" then do
            let (found, open?) ← argumentItems argument.toList
            return found ++ (← items open? rest)
          else (items none rest).map fun later => .positional argument :: later

/-- A whole number as an argument: blanks around it, a sign, single underscores between digits, and
a fraction of zeros are allowed. -/
def wholeNumber? (text : String) : Option Int :=
  let (isNegative, unsigned) := Decimal.splitSign (Text.strip text.toList)
  let digits := unsigned.takeWhile (· != '.')
  let fraction := unsigned.drop (digits.length + 1)
  if digits.all (fun character => character.isDigit || character == '_') && fraction.all (· == '0')
  then
    (Decimal.digitsFrom 10 0 digits).map fun number => if isNegative then -number else number
  else none

/-- Take an item into account. -/
def Arguments.apply (arguments : Arguments) (option : OptionName) (value : String) :
    Except UsageFault Arguments :=
  match option with
  | .init => .ok { arguments with init := true }
  | .directory => .ok { arguments with directory := some value }
  | .title => .ok { arguments with title := some value }
  | .dryRun => .ok { arguments with dryRun := true }
  | .force => .ok { arguments with force := true }
  | .logDirectory => .ok { arguments with logDirectory := some value }
  | .verbosity =>
      match wholeNumber? value with
      | some number => .ok { arguments with verbosity := number }
      | none => .error .badVerbosity
  | .noColor => .ok { arguments with noColor := true }
  | .version => .ok { arguments with version := true }
  | .help => .ok { arguments with help := true }

/-- The options among items, of which only the last one of a name counts. -/
def optionsOf (given : List Item) : List (OptionName × String) :=
  let options := given.filterMap fun
    | .option name value => some (name, value)
    | .positional _ => none
  (List.range options.length).filterMap fun place =>
    (options[place]?).filter fun (name, _) =>
      (options.drop (place + 1)).all fun later => later.1 != name

/-- The arguments among items that belong to no option. -/
def positionalsOf (given : List Item) : List String :=
  given.filterMap fun
    | .positional text => some text
    | .option .. => none

/-- Read a command line. Asking for help excuses every fault but one in the form of the options. -/
def Arguments.ofList (arguments : List String) : Except UsageFault Arguments := do
  let given ← items none arguments
  let options := optionsOf given
  if options.any fun option => option.1 == .help then
    return { Arguments.empty with help := true }
  let read ← options.foldlM (fun read (option, value) => read.apply option value) Arguments.empty
  match positionalsOf given with
  | [] => return read
  | [file] => return { read with file := some file }
  | _ :: extra => throw (.extraArguments extra)

end DocBinder.CommandLine
