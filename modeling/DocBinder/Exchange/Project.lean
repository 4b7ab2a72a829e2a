import DocBinder.Exchange.Tagged
import DocBinder.Project.Scan

/-!
# Exchanged projects

The forms of configurations, Markdown files and source documents.
-/

namespace DocBinder.Exchange

open Project

/-- A configuration. -/
def configValue (config : Config) : Value :=
  let texts (items : List String) : Value := listValue items .str
  .record [("docs_dir", .str config.docsDirectory), ("document_title", .str config.title),
    ("image_chunk_size", .int config.chunkSize),
    ("diagram_languages", texts config.diagramLanguages),
    ("file_patterns", texts config.filePatterns),
    ("exclude_patterns", texts config.excludePatterns)]

/-- Read a configuration; what is left out has its default. -/
def readConfig (value : Value) : Config :=
  let texts (name : String) (default : List String) : List String :=
    (optionField value name fun list => list.items.map readString).getD default
  let default := Config.default
  ⟨stringField value "docs_dir" default.docsDirectory,
    stringField value "document_title" default.title,
    (optionField value "image_chunk_size" readInt).getD default.chunkSize,
    texts "diagram_languages" default.diagramLanguages,
    texts "file_patterns" default.filePatterns,
    texts "exclude_patterns" default.excludePatterns⟩

/-- The entries of front matter. -/
def readEntries : Value → List (Value × Value)
  | .map entries => entries
  | _ => []

/-- A Markdown file. -/
def fileValue (file : SourceFile) : Value :=
  .record [("file_path", .str file.path), ("relative_path", .str file.relativePath),
    ("frontmatter", tagged (.map file.frontmatter)), ("content", textValue file.body),
    ("raw_content", textValue file.text)]

/-- A source document. -/
def documentValue (document : Sync.SourceDocument) : Value :=
  .record [("path", .str document.path), ("title", .str document.title),
    ("markdown", textValue document.markdown), ("content_hash", .str document.hash),
    ("base_dir", optionValue document.directory .str)]

end DocBinder.Exchange
