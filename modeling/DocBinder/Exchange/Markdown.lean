import DocBinder.Compile
import DocBinder.Exchange.Fields
import DocBinder.Resolve.Replacements

/-!
# Exchanged documents

The forms of blocks, directives, tables, links and images. A block always shows the fields of every
kind of block, those of other kinds with their defaults.
-/

namespace DocBinder.Exchange

/-- A span: its start, its end and the name of its style. -/
def spanValue (span : Span) : Value :=
  .list [natValue span.start, natValue span.stop, .str span.style.name]

/-- The spans of a text. -/
def spansValue (spans : List Span) : Value :=
  listValue spans spanValue

/-- Read a span. -/
def readSpan (value : Value) : Span :=
  match value.items with
  | [start, stop, style] =>
      ⟨readNat start, readNat stop, (SpanStyle.ofName? (readString style)).getD .bold⟩
  | _ => default

/-- Read the spans of a text. -/
def readSpans (value : Value) : List Span :=
  value.items.map readSpan

/-- Read the cells of a table. -/
def readGrid (value : Value) : Grid :=
  ⟨listField value "headers" readText, listField value "rows" (·.items.map readText),
    listField value "cell_spans" (·.items.map readSpans)⟩

/-- The fields of the cells of a table. -/
def gridFields (grid : Grid) : List (String × Value) :=
  [("headers", listValue grid.headers textValue),
    ("rows", listValue grid.rows fun row => listValue row textValue),
    ("cell_spans", listValue grid.cellSpans fun row => listValue row spansValue)]

/-- The text and the spans of the cell at a row and a column, which may count from the end, where
row zero is the header. A row that does not exist has no cells, unlike one that is too short. -/
def askedCell? (grid : Grid) (row column : Int) : Option (Text × List Span) := do
  let cells ← if row == 0 then some grid.headers else itemAt? grid.rows (row - 1) none
  let text ← itemAt? cells column (some [])
  let spans ← itemInRow? grid.cellSpans row column []
  return (text, spans)

/-- Read a text with spans. -/
def readStyledText (value : Value) : StyledText :=
  ⟨readText (value.part "text"), readSpans (value.part "spans")⟩

/-- A text with spans. -/
def styledTextValue (styled : StyledText) : Value :=
  .record [("text", textValue styled.text), ("spans", spansValue styled.spans)]

/-- Read a block. -/
def readBlock (value : Value) : Block :=
  let source := readText (value.part "raw_text")
  let text := readText (value.part "text")
  let language := optionField value "language" readText
  match readString (value.part "kind") with
  | "heading" => .heading source (readInt (value.part "level")) text
  | "code_block" => .code source language text
  | "list" =>
      .list source (readBool (value.part "ordered")) (listField value "items" readStyledText)
  | "table" => .table source (readGrid value)
  | "placeholder" =>
      match value.part "token" with
      | .null => .diagram source language text
      | token => .placeholder source (readText token)
  | _ => .paragraph source ⟨readText (value.part "processed_text"), readSpans (value.part "spans")⟩

/-- The fields of every block, with their defaults. -/
def blockDefaults (source : Text) : List (Value × Value) :=
  [("kind", .null), ("raw_text", textValue source), ("text", .str ""), ("level", .int 0),
    ("language", .null), ("ordered", .bool false), ("items", .list []), ("headers", .list []),
    ("rows", .list []), ("cell_spans", .list []), ("processed_text", .str ""),
    ("spans", .list []), ("token", .null)].map fun (name, value) => (.str name, value)

/-- The fields of a block that its kind has. -/
def blockFields : Block → List (String × Value)
  | .heading _ level text =>
      [("kind", .str "heading"), ("level", .int level), ("text", textValue text)]
  | .code _ language text => [("kind", .str "code_block"),
      ("language", optionValue language textValue), ("text", textValue text)]
  | .list _ ordered items => [("kind", .str "list"), ("ordered", .bool ordered),
      ("items", listValue items styledTextValue)]
  | .table _ grid => ("kind", .str "table") :: gridFields grid
  | .paragraph _ content => [("kind", .str "paragraph"),
      ("processed_text", textValue content.text), ("spans", spansValue content.spans)]
  | .placeholder _ token => [("kind", .str "placeholder"), ("token", textValue token)]
  | .diagram _ language text => [("kind", .str "placeholder"),
      ("language", optionValue language textValue), ("text", textValue text)]

/-- A block. -/
def blockValue (block : Block) : Value :=
  .map ((blockFields block).foldl (fun fields (name, value) => Value.put (.str name) value fields)
    (blockDefaults block.source))

/-- The parameters of a kind of directive. -/
def directiveParameters : DirectiveKind → Value
  | .heading level => .record [("level", optionValue level .int)]
  | .code language => .record [("language", optionValue language textValue)]
  | .paragraph => .record []
  | .list ordered => .record [("ordered", .bool ordered)]

/-- A directive. -/
def directiveValue (directive : Directive) : Value :=
  .record [("type", .str directive.kind.name), ("literal_text", textValue directive.literal),
    ("length", natValue directive.literal.length),
    ("style_params", directiveParameters directive.kind),
    ("request_index", natValue directive.request),
    ("label_text", optionValue directive.label textValue),
    ("spans", spansValue directive.spans), ("trailing", textValue directive.trailing)]

/-- Read the kind of a directive from its name and its parameters. -/
def readDirectiveKind (name : String) (parameters : Value) : DirectiveKind :=
  match name with
  | "heading" => .heading ((parameters.get? "level").bind Value.int?)
  | "code_block" => .code (optionField parameters "language" readText)
  | "list" => .list (readBool (parameters.part "ordered"))
  | _ => .paragraph

/-- Read a directive. -/
def readDirective (value : Value) : Directive :=
  ⟨readDirectiveKind (readString (value.part "type")) (value.part "style_params"),
    readText (value.part "literal_text"), readNat (value.part "request_index"),
    optionField value "label_text" readText, readSpans (value.part "spans"),
    (stringField value "trailing" "\n").toList⟩

/-- A table that is to be made. -/
def tableValue (table : TableSpec) : Value :=
  .record (("request_index", natValue table.request) :: gridFields table.grid)

/-- Read a table that is to be made. -/
def readTable (value : Value) : TableSpec :=
  ⟨readGrid value, readNat (value.part "request_index")⟩

/-- A link. -/
def linkValue (link : Link) : Value :=
  .record [("token", textValue link.token), ("display_text", textValue link.display),
    ("url", textValue link.url), ("is_external", .bool link.isExternal)]

/-- Read a link. -/
def readLink (value : Value) : Link :=
  ⟨readText (value.part "token"), readText (value.part "display_text"),
    readText (value.part "url"), (optionField value "is_external" readBool).getD true⟩

/-- An image. -/
def imageValue (image : Image) : Value :=
  .record [("token", textValue image.token), ("uri", textValue image.uri),
    ("alt_text", textValue image.alt), ("kind", .str image.kind.name)]

/-- Read an image. -/
def readImage (value : Value) : Image :=
  ⟨readText (value.part "token"), readText (value.part "uri"), readText (value.part "alt_text"),
    if readString (value.part "kind") == "diagram" then .diagram else .image⟩

end DocBinder.Exchange
