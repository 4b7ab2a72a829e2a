import DocBinder.Log
import DocBinder.Markdown.Block
import DocBinder.Markdown.Fence
import DocBinder.Text.Digit

/-!
# Reading blocks from lines

A Markdown document is read line by line. Each reading takes the current line and the number of
lines after it that belong to the same block, so that the lines of the blocks put together are
the lines of the document. A fence that is never closed and a table without a proper header are
no errors: their first line becomes a paragraph, and reading goes on with the next line.
-/

namespace DocBinder.Markdown

/-- Why lines that begin like a fence or a table are none. -/
inductive Defect where
  | unclosedFence
  | shortTable (lines : Nat)
  | emptyHeader
  | noSeparator
deriving DecidableEq, Repr

namespace Defect

/-- What the lines begin like. -/
def construct : Defect → String
  | .unclosedFence => "code fence"
  | _ => "table"

/-- The reason in words. -/
def reason : Defect → String
  | .unclosedFence => "no closing fence"
  | .shortTable lines => s!"needs header, separator and a row, got {lines} line(s)"
  | .emptyHeader => "empty header row"
  | .noSeparator => "second line is not a separator row"

/-- How far below the first line the fault lies. -/
def lineOffset : Defect → Nat
  | .noSeparator => 1
  | _ => 0

/-- The report of a defect at a line. -/
def message (defect : Defect) (line : Nat) : String :=
  s!"Malformed {defect.construct} at line {line}: {defect.reason}"

end Defect

/-- What is reported about a block while it is read. -/
inductive Note where
  | degraded (line : Nat) (defect : Defect)
  | cutRow (line cells kept : Nat)
deriving DecidableEq, Repr

/-- The log line of a note. -/
def Note.line : Note → Log.Line
  | .degraded line defect =>
      ⟨.warning, .classifier, defect.message line ++ "; treating line as a paragraph"⟩
  | .cutRow line cells kept =>
      ⟨.debug, .classifier,
        s!"Table row at line {line} has {cells} cells, keeping the first {kept}"⟩

/-- A block, the notes on it, and the number of lines after its first that it takes. -/
structure Reading where
  block : Block
  notes : List Note
  further : Nat
deriving Repr

/-- The text after blanks, of which there is at least one. -/
def afterBlanks? : Text → Option Text
  | character :: rest => if Text.isBlank character then some (Text.trimStart rest) else none
  | [] => none

/-- The text of an entry of a list without numbers. -/
def bulletItem? : Text → Option Text
  | '*' :: rest => afterBlanks? rest
  | '+' :: rest => afterBlanks? rest
  | '-' :: rest => afterBlanks? rest
  | _ => none

/-- The text of an entry of a numbered list. -/
def numberedItem? (line : Text) : Option Text :=
  let digits := line.takeWhile Text.isDecimal
  if digits.isEmpty then none
  else
    match line.drop digits.length with
    | '.' :: rest => afterBlanks? rest
    | _ => none

/-- The text of an entry of a list. -/
def item? (line : Text) : Option Text :=
  (bulletItem? line).or (numberedItem? line)

/-- The kinds of tokens that stand on a line of their own. -/
def lineTokenHeads : List Text :=
  ["[[[IMAGE_".toList, "[[[DIAGRAM_".toList]

/-- Whether a line is the token of an image or a diagram. -/
def isTokenLine (line : Text) : Bool :=
  lineTokenHeads.any fun head =>
    match Text.drop? head line with
    | some rest =>
        let digits := rest.takeWhile Text.isDecimal
        !digits.isEmpty && rest.drop digits.length == [']', ']', ']']
    | none => false

/-- A line as a paragraph. -/
def paragraph (line : Text) : Block :=
  let (text, spans) := inlineSpans line
  .paragraph line ⟨text, spans⟩

/-- A paragraph in place of a block that its lines do not hold. -/
def degrade (number : Nat) (line : Text) (defect : Defect) : Reading :=
  ⟨paragraph line, [.degraded (number + defect.lineOffset) defect], 0⟩

/-- Read a fence that opens at the given line. -/
def readFence (diagramLanguages : List Text) (number : Nat) (line : Text) (after : List Text) :
    Reading :=
  match fenceBody? after with
  | none => degrade number (Text.strip line) .unclosedFence
  | some (body, closing) =>
      let language := fenceLanguage? line
      let source := Text.joinLines (line :: body ++ [closing])
      let text := Text.joinLines body
      let block :=
        if isDiagram diagramLanguages language then .diagram source language text
        else .code source language text
      ⟨block, [], body.length + 1⟩

/-- The cells of a table row, without the empty ones that the outer bars leave. -/
def splitRow (line : Text) : List Text :=
  let cells := (Text.splitOn '|' line).map Text.strip
  let cells := match cells with
    | [] :: rest => rest
    | cells => cells
  match cells.getLast? with
  | some [] => cells.dropLast
  | _ => cells

/-- Whether a cell belongs to the row between header and body: hyphens with a colon at either end
or none. -/
def isSeparatorCell (cell : Text) : Bool :=
  let cell := match cell with
    | ':' :: rest => rest
    | cell => cell
  let hyphens := cell.takeWhile (· == '-')
  !hyphens.isEmpty && (cell.drop hyphens.length == [] || cell.drop hyphens.length == [':'])

/-- The grid of a table and the notes on rows that were cut to the width of the header. -/
def readGrid (number : Nat) (headers : List Text) (body : List Text) : Grid × List Note :=
  let rows := body.map splitRow
  let kept := rows.map (·.take headers.length)
  let styled := (headers :: kept).map (·.map inlineSpans)
  let notes := (rows.zipIdx (number + 2)).filterMap fun (cells, line) =>
    if cells.length > headers.length then some (.cutRow line cells.length headers.length) else none
  (⟨(styled.headD []).map (·.1), styled.tail.map (·.map (·.1)), styled.map (·.map (·.2))⟩, notes)

/-- Read a table whose first line is the given one. -/
def readTable (number : Nat) (line : Text) (after : List Text) : Reading :=
  let first := Text.strip line
  let rest := (after.map Text.strip).takeWhile (['|'].isPrefixOf ·)
  match rest with
  | separator :: row :: rows =>
      let headers := splitRow first
      let marks := splitRow separator
      if headers.isEmpty then degrade number first .emptyHeader
      else if marks.isEmpty || !marks.all isSeparatorCell then degrade number first .noSeparator
      else
        let (grid, notes) := readGrid number headers (row :: rows)
        ⟨.table (Text.joinLines (first :: rest)) grid, notes, rest.length⟩
  | _ => degrade number first (.shortTable (rest.length + 1))

/-- Whether a list goes on below blank lines. -/
def listContinues (lines : List Text) : Bool :=
  match lines.dropWhile fun line => (Text.strip line).isEmpty with
  | line :: _ => (item? (Text.strip line)).isSome
  | [] => false

/-- The entries of a list, each as its line and its text, and the number of lines they take. Blank
lines belong to the list when another entry follows them. -/
def listItems : List Text → List (Text × Text) × Nat
  | [] => ([], 0)
  | line :: rest =>
      let stripped := Text.strip line
      if stripped.isEmpty then
        if listContinues rest then
          let (items, count) := listItems rest
          (items, count + 1)
        else ([], 0)
      else
        match item? stripped with
        | none => ([], 0)
        | some text =>
            let (items, count) := listItems rest
            ((stripped, Text.strip text) :: items, count + 1)

/-- Read a list whose first entry is the given line. -/
def readList (line : Text) (after : List Text) : Reading :=
  let (items, count) := listItems (line :: after)
  let entries := items.map fun (_, text) =>
    let (shown, spans) := inlineSpans text
    (⟨shown, spans⟩ : StyledText)
  ⟨.list (Text.joinLines (items.map (·.1))) (numberedItem? (Text.strip line)).isSome entries, [],
    count - 1⟩

/-- A heading, for a line that begins with number signs. -/
def heading (line : Text) : Block :=
  let signs := line.takeWhile (· == '#')
  .heading line signs.length (Text.strip (line.drop signs.length))

/-- Read the block that begins at a line that is not blank. -/
def readBlock (diagramLanguages : List Text) (number : Nat) (line : Text) (after : List Text) :
    Reading :=
  let stripped := Text.strip line
  if opensFence line then readFence diagramLanguages number line after
  else if ['|'].isPrefixOf stripped then readTable number line after
  else if ['#'].isPrefixOf stripped then ⟨heading stripped, [], 0⟩
  else if (item? stripped).isSome then readList line after
  else if isTokenLine stripped then ⟨.placeholder stripped stripped, [], 0⟩
  else ⟨paragraph stripped, [], 0⟩

/-- Read the blocks of numbered lines. `skip` counts the lines that the last block still takes. -/
def readLines (diagramLanguages : List Text) (number skip : Nat) : List Text → List Reading
  | [] => []
  | line :: after =>
      match skip with
      | skip + 1 => readLines diagramLanguages (number + 1) skip after
      | 0 =>
          if (Text.strip line).isEmpty then readLines diagramLanguages (number + 1) 0 after
          else
            let reading := readBlock diagramLanguages number line after
            reading :: readLines diagramLanguages (number + 1) reading.further after

/-- The lines of a document, whatever ends them. -/
def documentLines (markdown : Text) : List Text :=
  Text.lines (Text.normalizeNewlines markdown)

/-- The readings of a document's blocks. -/
def readings (diagramLanguages : List Text) (markdown : Text) : List Reading :=
  readLines diagramLanguages 1 0 (documentLines markdown)

/-- The blocks of a document in order. -/
def classify (diagramLanguages : List Text) (markdown : Text) : List Block :=
  (readings diagramLanguages markdown).map (·.block)

/-- What is reported while a document is read. -/
def classifyLog (diagramLanguages : List Text) (markdown : Text) : List Log.Line :=
  let all := readings diagramLanguages markdown
  all.flatMap (·.notes.map Note.line)
    ++ [⟨.debug, .classifier,
      s!"Classified {all.length} block(s) from {(documentLines markdown).length} line(s)"⟩]

end DocBinder.Markdown
