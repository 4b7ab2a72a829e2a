import DocBinder.Decimal.Numeral
import DocBinder.Files.Store
import DocBinder.Value.Written
import DocBinder.Yaml.Reader
import DocBinder.Yaml.Writer

/-!
# Configuration

What a project sets in its configuration file: where its Markdown files are, which of them belong
to it, and how they are written. A configuration that was saved reads as the same one.
-/

namespace DocBinder.Project

/-- The configuration of a project. -/
structure Config where
  docsDirectory : String
  title : String
  chunkSize : Int
  diagramLanguages : List String
  filePatterns : List String
  excludePatterns : List String
deriving DecidableEq, Repr, Inhabited

namespace Config

/-- The configuration that stands for what a file leaves out. -/
def default : Config :=
  ⟨"docs", "Documentation", 20, ["mermaid", "plantuml", "dot", "graphviz", "d2"],
    ["*.md", "*.mdx"], []⟩

/-! ## Reading -/

/-- A failure of the configuration as a whole. -/
def refused (note : String) : Failure :=
  .of (.config note none)

/-- A failure of one field. -/
def refusedField (field note : String) : Failure :=
  .of (.config note (some field))

/-- The name that a value's type has where a number is expected. -/
def numberlessType : Value → String
  | .date _ => "datetime.date"
  | .moment _ => "datetime.datetime"
  | value => value.typeName

/-- What is said of an optional field whose value is of no use. -/
def notWhole (note : String) : Failure :=
  refused s!"Invalid field type for optional field: {note}"

/-- What is said of a text or bytes that write no whole number; no more than the head of a long one
is shown. -/
def unreadable (value : Value) : Failure :=
  let shown := String.ofList (value.literal.toList.take 200)
  notWhole s!"invalid literal for int() with base 10: {shown}"

/-- The whole number that the text of a value writes. -/
def writtenNumber (value : Value) (text : Text) : Except Failure Int :=
  match Decimal.lengthFault? text, Decimal.readWhole? 10 text with
  | some note, _ => .error (notWhole note)
  | none, some number => .ok number
  | none, none => .error (unreadable value)

/-- The character that a byte stands for in a numeral; what is no ASCII character or separates data
stands for none that a numeral can have. -/
def numeralCharacter (byte : UInt8) : Char :=
  if byte < 0x80 && !(0x1C ≤ byte && byte ≤ 0x1F) then Char.ofNat byte.toNat else '\x00'

/-- The whole number that a value gives: a fraction is cut off, and a text is read. -/
def wholeNumber (value : Value) : Except Failure Int :=
  match value with
  | .int number => .ok number
  | .bool flag => .ok (if flag then 1 else 0)
  | .float number =>
      match Decimal.Binary.ofFloat number with
      | .nan => .error (notWhole "cannot convert float NaN to integer")
      | .infinite _ =>
          .error (.foreign "OverflowError" "cannot convert float infinity to integer")
      | binary => .ok (binary.wholePart?.getD 0)
  | .str text => writtenNumber value text.toList
  | .bytes content => writtenNumber value (content.map numeralCharacter)
  | value =>
      .error (notWhole (s!"int() argument must be a string, a bytes-like object or a real number, "
        ++ s!"not '{numberlessType value}'"))

/-- The texts of a field that has to be a list; null stands for the default. -/
def textList (value : Value) (field : String) (default : List String) :
    Except Failure (List String) :=
  match value.part field with
  | .null => .ok default
  | .list items => items.mapM Value.written
  | _ => .error (refusedField field s!"Field '{field}' must be a list")

/-- Whether a text holds nothing but blanks. -/
def isBlankText (text : String) : Bool :=
  text.toList.all Text.isBlank

/-- The directory of the Markdown files, which has to be given. -/
def docsDirectoryOf (value : Value) : Except Failure String :=
  match value.get? "docs_dir" with
  | none => .error (refused "Missing required fields: docs_dir")
  | some (.str directory) =>
      if isBlankText directory then .error missing else .ok directory
  | some _ => .error missing
where
  /-- The failure of a directory that is not given as a text. -/
  missing : Failure := refusedField "docs_dir" "Field 'docs_dir' must be a non-empty string"

/-- The title, which may be a value of any type that has a text. -/
def titleOf (value : Value) : Except Failure String :=
  let title := (value.get? "document_title").getD (.str default.title)
  title.written.mapError fun failure => notWhole failure.message

/-- The failure of a number that is too small; a number with too many digits is not shown. -/
def tooSmall (number : Int) : Failure :=
  if Value.isLong number then .badValue Value.tooLong
  else refusedField "image_chunk_size" s!"Field 'image_chunk_size' must be at least 1, got {number}"

/-- The configuration that a mapping gives. -/
def ofValue (value : Value) : Except Failure Config := do
  let docsDirectory ← docsDirectoryOf value
  let title ← titleOf value
  let chunkSize ← wholeNumber ((value.get? "image_chunk_size").getD (.int default.chunkSize))
  if isBlankText title then
    throw (refusedField "document_title" "Field 'document_title' cannot be empty")
  if chunkSize < 1 then throw (tooSmall chunkSize)
  return ⟨docsDirectory, title, chunkSize,
    ← textList value "diagram_languages" default.diagramLanguages,
    ← textList value "file_patterns" default.filePatterns,
    ← textList value "exclude_patterns" []⟩

/-- The configuration that a YAML text gives. -/
def ofText (text : Text) : Except Failure Config :=
  match Yaml.read text with
  | .error (.malformed note) => .error (refused s!"Invalid YAML syntax: {note}")
  | .error (.unusable failure) => .error failure
  | .ok content =>
      match content.value with
      | .null => .error (refused "Configuration file is empty")
      | .map entries => ofValue (.map entries)
      | value =>
          .error (refused s!"Configuration must be a YAML dictionary, got {value.typeName}")

/-- Read the configuration file at a path. -/
def load (files : FileTree) (path : String) : Except Failure Config :=
  let unread (reason : String) : Except Failure Config :=
    .error (.of (.filesystem path "read" (some reason)))
  match files.readText path with
  | .error (.refused .notFound) => unread "Configuration file not found"
  | .error (.refused refusal) => unread (refusal.message path)
  | .error (.undecodable fault) => .error (.foreign "UnicodeDecodeError" fault.message)
  | .ok text => ofText text

/-! ## Writing -/

/-- A configuration as a mapping. No patterns to exclude are left out. -/
def toValue (config : Config) : Value :=
  let texts (items : List String) : Value := .list (items.map .str)
  .record ([("docs_dir", .str config.docsDirectory), ("document_title", .str config.title),
    ("image_chunk_size", .int config.chunkSize),
    ("diagram_languages", texts config.diagramLanguages),
    ("file_patterns", texts config.filePatterns)]
    ++ if config.excludePatterns.isEmpty then []
      else [("exclude_patterns", texts config.excludePatterns)])

/-- Write the configuration file at a path, and the directories that lead to it. A number with too
many digits cannot be written. -/
def save (config : Config) (files : FileTree) (path : String) : Except Failure FileTree :=
  if Value.isLong config.chunkSize then .error (.badValue Value.tooLong)
  else (files.store path (Yaml.write config.toValue)).mapError fun fault =>
    .of (.filesystem fault.path fault.operation (some fault.reason))

end Config

end DocBinder.Project
