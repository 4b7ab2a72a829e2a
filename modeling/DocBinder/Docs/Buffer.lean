import DocBinder.Docs.Request
import DocBinder.Failure
import DocBinder.Text.Case

/-!
# The buffer of a document

The body of a document as a flat list of units, one for each position: characters, the markers of
tables, and inline images. Index units count from one; a character takes its width and every other
unit takes one. An inserted table is preceded by a line feed, and each of its cells begins with a
line feed of its own.
-/

namespace DocBinder.Docs

/-- What stands at one position of a document body. -/
inductive BodyUnit where
  | char (character : Char)
  | tableStart
  | rowStart
  | cellStart
  | tableEnd
  | image (uri : Text)
deriving DecidableEq, Repr, Inhabited

namespace BodyUnit

/-- The index units that a unit takes. -/
def width : BodyUnit → Nat
  | .char character => Text.charWidth character
  | _ => 1

/-- The character of a unit. -/
def char? : BodyUnit → Option Char
  | .char character => some character
  | _ => none

/-- Whether a unit stands in a paragraph. -/
def isInline : BodyUnit → Bool
  | .char _ | .image _ => true
  | .tableStart | .rowStart | .cellStart | .tableEnd => false

/-- The line feed that ends a paragraph. -/
def lineFeed : BodyUnit :=
  .char '\n'

end BodyUnit

/-- A document body. -/
abbrev Buffer := List BodyUnit

namespace Buffer

/-- The body that holds a text. -/
def ofText (text : Text) : Buffer :=
  text.map .char ++ [.lineFeed]

/-- The characters of a body, those in table cells included. -/
def text (buffer : Buffer) : Text :=
  buffer.filterMap BodyUnit.char?

/-- The index units that units take. -/
def width (buffer : Buffer) : Nat :=
  total (buffer.map BodyUnit.width)

/-- The index just behind the last unit. -/
def endIndex (buffer : Buffer) : Nat :=
  buffer.width + 1

/-- The position of the unit that begins at an index, when the first unit begins at `start`. -/
def positionFrom? (index start : Nat) : Buffer → Option Nat
  | [] => if index = start then some 0 else none
  | unit :: rest =>
      if index = start then some 0
      else (positionFrom? index (start + unit.width) rest).map (· + 1)

/-- The position of the unit that begins at an index. -/
def position (buffer : Buffer) (index : Nat) : Except Failure Nat :=
  match positionFrom? index 1 buffer with
  | some position => .ok position
  | none =>
      .error (.of (.accessFailed s!"Index {index} does not fall on a character boundary"))

/-- The position at which new content goes. -/
def insertPosition (buffer : Buffer) : Place → Except Failure Nat
  | .bodyEnd => .ok (buffer.length - 1)
  | .at index =>
      if 1 ≤ index ∧ index < buffer.endIndex then buffer.position index
      else .error (.of (.accessFailed
        s!"Index {index} must be less than the end index of the segment"))

/-- The positions that a range covers. -/
def rangePositions (buffer : Buffer) (start stop : Nat) : Except Failure (Nat × Nat) := do
  if 1 ≤ start ∧ start < stop ∧ stop ≤ buffer.endIndex then
    return (← buffer.position start, ← buffer.position stop)
  else .error (.of (.accessFailed
    s!"Invalid range [{start}, {stop}) for body ending at {buffer.endIndex}"))

/-- Put units at a position. -/
def insertAt (buffer : Buffer) (position : Nat) (units : Buffer) : Buffer :=
  buffer.take position ++ units ++ buffer.drop position

/-- Take away the units from a position up to another. -/
def deleteBetween (buffer : Buffer) (start stop : Nat) : Buffer :=
  buffer.take start ++ buffer.drop stop

/-- The units of an empty row. -/
def emptyRow (columns : Nat) : Buffer :=
  .rowStart :: (List.replicate columns [.cellStart, .lineFeed]).flatten

/-- The units of an empty table, with the line feed before it. -/
def emptyTable (rows columns : Nat) : Buffer :=
  .lineFeed :: .tableStart :: (List.replicate rows (emptyRow columns)).flatten ++ [.tableEnd]

/-- Whether units are the characters of a text. -/
def spells (units : Buffer) (find : Text) (matchCase : Bool) : Bool :=
  units.all (fun unit => unit.char?.isSome)
    && if matchCase then units.text == find else Text.lower units.text == Text.lower find

/-- Replace a non-empty text wherever it stands; `skip` counts the units of a match still to
pass. -/
def replaceFrom (find replacement : Text) (matchCase : Bool) (skip : Nat) : Buffer → Buffer
  | [] => []
  | unit :: rest =>
      match skip with
      | skip + 1 => replaceFrom find replacement matchCase skip rest
      | 0 =>
          if !find.isEmpty && spells ((unit :: rest).take find.length) find matchCase then
            replacement.map .char
              ++ replaceFrom find replacement matchCase (find.length - 1) rest
          else unit :: replaceFrom find replacement matchCase 0 rest

end Buffer

/-- What a request does beside changing the body: the text it styles, and the image it inserts. -/
structure Effects where
  styled : List (Text × TextStyle)
  images : List Text
deriving Repr, Inhabited

/-- Apply a request to a body. -/
def Request.apply (request : Request) (buffer : Buffer) : Except Failure (Buffer × Effects) := do
  match request with
  | .insertText text place =>
      let position ← buffer.insertPosition place
      return (buffer.insertAt position (text.map .char), ⟨[], []⟩)
  | .insertTable rows columns place =>
      let position ← buffer.insertPosition place
      return (buffer.insertAt position (Buffer.emptyTable rows columns), ⟨[], []⟩)
  | .insertImage uri index =>
      let position ← buffer.insertPosition (.at index)
      return (buffer.insertAt position [.image uri], ⟨[], [uri]⟩)
  | .deleteRange start stop =>
      let (first, last) ← buffer.rangePositions start stop
      return (buffer.deleteBetween first last, ⟨[], []⟩)
  | .styleText start stop style =>
      let (first, last) ← buffer.rangePositions start stop
      return (buffer, ⟨[(Buffer.text ((buffer.take last).drop first), style)], []⟩)
  | .replaceText find replacement matchCase =>
      return (buffer.replaceFrom find replacement matchCase 0, ⟨[], []⟩)

/-- Apply the requests of a batch one after another; one that is refused refuses the batch. -/
def applyBatch (buffer : Buffer) : List Request → Except Failure (Buffer × Effects)
  | [] => .ok (buffer, ⟨[], []⟩)
  | request :: rest => do
      let (buffer, first) ← request.apply buffer
      let (buffer, following) ← applyBatch buffer rest
      return (buffer, ⟨first.styled ++ following.styled, first.images ++ following.images⟩)

/-! ## The wire form of a body -/

/-- A part of a body: a paragraph, or a table with the paragraphs of its cells, row by row. -/
inductive BodyPart where
  | paragraph (units : Buffer)
  | table (rows : List (List (List Buffer)))
deriving DecidableEq, Repr, Inhabited

/-- The units up to a line feed, or up to a marker. -/
def leadingParagraph : Buffer → Buffer
  | [] => []
  | unit :: rest =>
      if unit == .lineFeed then [unit]
      else if unit.isInline then unit :: leadingParagraph rest
      else []

/-- Cut units behind every line feed. -/
def paragraphsOf : Buffer → List Buffer
  | [] => []
  | unit :: rest =>
      if unit == .lineFeed then [unit] :: paragraphsOf rest
      else
        match paragraphsOf rest with
        | paragraph :: following => (unit :: paragraph) :: following
        | [] => [[unit]]

/-- The runs of units behind each occurrence of a marker. -/
def sections (marker : BodyUnit) : Buffer → List Buffer
  | [] => []
  | unit :: rest =>
      if unit == marker then rest.takeWhile (· != marker) :: sections marker rest
      else sections marker rest

/-- The rows of a table, from the units between its markers. -/
def tableRows (units : Buffer) : List (List (List Buffer)) :=
  (sections .rowStart units).map fun row => (sections .cellStart row).map paragraphsOf

/-- The parts of a body; `skip` counts the units of the last part still to pass. -/
def bodyParts (skip : Nat) : Buffer → List BodyPart
  | [] => []
  | unit :: rest =>
      match skip with
      | skip + 1 => bodyParts skip rest
      | 0 =>
          if unit == .tableStart then
            let units := rest.takeWhile (· != .tableEnd)
            .table (tableRows units) :: bodyParts (units.length + 1) rest
          else if unit.isInline then
            let units := leadingParagraph (unit :: rest)
            .paragraph units :: bodyParts (units.length - 1) rest
          else bodyParts 0 rest

/-- A part of the wire form that covers a range. -/
def covering (start stop : Nat) (fields : List (String × Value)) : Value :=
  .record (("startIndex", .int start) :: ("endIndex", .int stop) :: fields)

/-- The elements of a paragraph whose first unit begins at an index: its runs of characters and its
images. `run` holds the characters read, reversed, and where they begin. -/
def paragraphElements (index : Nat) (run : Option (Nat × Text)) : Buffer → List Value
  | [] => flush index run
  | .char character :: rest =>
      let run := match run with
        | some (start, read) => (start, character :: read)
        | none => (index, [character])
      paragraphElements (index + Text.charWidth character) (some run) rest
  | .image uri :: rest =>
      flush index run
        ++ covering index (index + 1)
            [("inlineObjectElement", .record [("inlineObjectId", .str (String.ofList uri))])]
          :: paragraphElements (index + 1) none rest
  | .tableStart :: rest | .rowStart :: rest | .cellStart :: rest | .tableEnd :: rest =>
      flush index run ++ paragraphElements (index + 1) none rest
where
  /-- The element of the characters read. -/
  flush (index : Nat) : Option (Nat × Text) → List Value
    | some (start, read) =>
        [covering start index [("textRun",
          .record [("content", .str (String.ofList read.reverse)), ("textStyle", .record [])])]]
    | none => []

/-- A paragraph that begins at an index. -/
def paragraphValue (index : Nat) (units : Buffer) : Value :=
  covering index (index + units.width)
    [("paragraph", .record [("elements", .list (paragraphElements index none units))])]

/-- Paragraphs one after another, the first of which begins at an index. -/
def paragraphValues (index : Nat) : List Buffer → List Value
  | [] => []
  | units :: rest => paragraphValue index units :: paragraphValues (index + units.width) rest

/-- The index units of paragraphs. -/
def paragraphsWidth (paragraphs : List Buffer) : Nat :=
  total (paragraphs.map Buffer.width)

/-- The index units of cells with their markers. -/
def cellsWidth (cells : List (List Buffer)) : Nat :=
  total (cells.map fun cell => 1 + paragraphsWidth cell)

/-- The index units of rows with their markers. -/
def rowsWidth (rows : List (List (List Buffer))) : Nat :=
  total (rows.map fun row => 1 + cellsWidth row)

/-- Cells one after another, the marker of the first of which stands at an index. -/
def cellValues (index : Nat) : List (List Buffer) → List Value
  | [] => []
  | cell :: rest =>
      let stop := index + 1 + paragraphsWidth cell
      covering index stop [("content", .list (paragraphValues (index + 1) cell))]
        :: cellValues stop rest

/-- Rows one after another, the marker of the first of which stands at an index. -/
def rowValues (index : Nat) : List (List (List Buffer)) → List Value
  | [] => []
  | row :: rest =>
      let stop := index + 1 + cellsWidth row
      covering index stop [("tableCells", .list (cellValues (index + 1) row))]
        :: rowValues stop rest

namespace BodyPart

/-- The index units of a part. -/
def width : BodyPart → Nat
  | .paragraph units => units.width
  | .table rows => 2 + rowsWidth rows

/-- A part that begins at an index. -/
def toValue (index : Nat) : BodyPart → Value
  | .paragraph units => paragraphValue index units
  | .table rows =>
      covering index (index + 2 + rowsWidth rows) [("table", .record [
        ("rows", .int rows.length), ("columns", .int ((rows.head?.map List.length).getD 0)),
        ("tableRows", .list (rowValues (index + 1) rows))])]

end BodyPart

/-- Parts one after another, the first of which begins at an index. -/
def partValues (index : Nat) : List BodyPart → List Value
  | [] => []
  | part :: rest => part.toValue index :: partValues (index + part.width) rest

/-- The wire form of a document. -/
def Buffer.toDocument (buffer : Buffer) (documentId title : String) : Value :=
  .record [("documentId", .str documentId), ("title", .str title),
    ("body", .record [("content",
      .list (covering 0 1 [("sectionBreak", .record [])] :: partValues 1 (bodyParts 0 buffer)))])]

end DocBinder.Docs
