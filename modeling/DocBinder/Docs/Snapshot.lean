import DocBinder.Text.Basic
import DocBinder.Value.Basic

/-!
# Snapshots

A read-only view of a fetched document: its structural elements with the index units they cover.
A snapshot holds until the next batch is applied.
-/

namespace DocBinder.Docs

/-- Characters that stand together in a paragraph. -/
structure TextRun where
  start : Nat
  stop : Nat
  content : Text
deriving DecidableEq, Repr, Inhabited

mutual

/-- A structural element of a document body or of a table cell. -/
inductive Element where
  | paragraph (start stop : Nat) (runs : List TextRun)
  | table (start stop : Nat) (rows : List (List Cell))
  | sectionBreak (start stop : Nat)
  | tableOfContents (start stop : Nat)
  | other (start stop : Nat)

/-- A cell of a table. -/
inductive Cell where
  | mk (start stop : Nat) (content : List Element)

end

instance : Inhabited Element := ⟨.other 0 0⟩
instance : Inhabited Cell := ⟨.mk 0 0 []⟩

namespace Element

/-- Where an element begins. -/
def start : Element → Nat
  | .paragraph start .. => start
  | .table start .. => start
  | .sectionBreak start _ => start
  | .tableOfContents start _ => start
  | .other start _ => start

/-- Where an element ends. -/
def stop : Element → Nat
  | .paragraph _ stop _ => stop
  | .table _ stop _ => stop
  | .sectionBreak _ stop => stop
  | .tableOfContents _ stop => stop
  | .other _ stop => stop

/-- The name of an element's kind. -/
def kindName : Element → String
  | .paragraph .. => "paragraph"
  | .table .. => "table"
  | .sectionBreak .. => "section_break"
  | .tableOfContents .. => "table_of_contents"
  | .other .. => "other"

/-- The runs of a paragraph. -/
def runs : Element → List TextRun
  | .paragraph _ _ runs => runs
  | _ => []

/-- The rows of a table. -/
def rows? : Element → Option (List (List Cell))
  | .table _ _ rows => some rows
  | _ => none

/-- Where a paragraph begins. -/
def paragraphStart? : Element → Option Nat
  | .paragraph start .. => some start
  | _ => none

end Element

namespace Cell

/-- Where a cell begins. -/
def start : Cell → Nat
  | .mk start _ _ => start

/-- Where a cell ends. -/
def stop : Cell → Nat
  | .mk _ stop _ => stop

/-- The elements inside a cell. -/
def content : Cell → List Element
  | .mk _ _ content => content

/-- Where the first paragraph of a cell begins. -/
def firstParagraph? (cell : Cell) : Option Nat :=
  cell.content.findSome? Element.paragraphStart?

end Cell

/-- The cell at a row and a column of a table. -/
def cellAt? (rows : List (List Cell)) (row column : Nat) : Option Cell :=
  rows[row]?.bind (·[column]?)

/-- A view of a document. -/
structure Snapshot where
  elements : List Element
  documentId : Value
  title : Value

/-- A position that a value gives under a name. -/
def indexOf (value : Value) (name : String) (default : Nat) : Nat :=
  ((value.part name).nat?).getD default

/-- A text run of a paragraph element, when it is one. -/
def TextRun.ofValue? (start : Nat) (value : Value) : Option TextRun :=
  (value.get? "textRun").map fun run =>
    ⟨indexOf value "startIndex" start, indexOf value "endIndex" start,
      ((run.part "content").string?.getD "").toList⟩

/-- The element that an item of a document's content stands for. -/
def Element.ofValue (item : Value) : Element :=
  let start := indexOf item "startIndex" 0
  let stop := indexOf item "endIndex" start
  match item.get? "paragraph" with
  | some content =>
      .paragraph start stop ((content.part "elements").items.filterMap (TextRun.ofValue? start))
  | none =>
      if (item.get? "table").isSome then
        .table start stop (((item.part "table").part "tableRows").items.attach.map fun ⟨row, _⟩ =>
          (row.part "tableCells").items.attach.map fun ⟨cell, _⟩ =>
            .mk (indexOf cell "startIndex" start) (indexOf cell "endIndex" start)
              ((cell.part "content").items.attach.map fun ⟨inner, _⟩ => Element.ofValue inner))
      else if (item.get? "sectionBreak").isSome then .sectionBreak start stop
      else if (item.get? "tableOfContents").isSome then .tableOfContents start stop
      else .other start stop
termination_by sizeOf item
decreasing_by
  rename_i inRows inCells inContent
  have inContentLt := Value.sizeOf_lt_of_mem_items inContent
  have contentLe := Value.sizeOf_part_le cell "content"
  have inCellsLt := Value.sizeOf_lt_of_mem_items inCells
  have cellsLe := Value.sizeOf_part_le row "tableCells"
  have inRowsLt := Value.sizeOf_lt_of_mem_items inRows
  have rowsLe := Value.sizeOf_part_le (item.part "table") "tableRows"
  have tableLe := Value.sizeOf_part_le item "table"
  omega

namespace Snapshot

/-- The view of a document in wire form. -/
def ofDocument (document : Value) : Snapshot :=
  { elements := ((document.part "body").part "content").items.map Element.ofValue
    documentId := document.part "documentId"
    title := document.part "title" }

/-- Where the body ends; its final line feed stands just before. -/
def endIndex (snapshot : Snapshot) : Nat :=
  match snapshot.elements.getLast? with
  | some element => max 1 element.stop
  | none => 1

/-- The tables of the body itself, in order. -/
def tables (snapshot : Snapshot) : List Element :=
  snapshot.elements.filter fun element => element.rows?.isSome

end Snapshot

end DocBinder.Docs
