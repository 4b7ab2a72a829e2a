import DocBinder.Docs.Style
import DocBinder.Text.Basic

/-!
# Requests

The edits that a batch is made of, and their wire form. Positions are index units of the document
body, of which the first is one; new content goes either to a position or to the end of the body.
-/

namespace DocBinder.Docs

/-- Where new content goes. -/
inductive Place where
  | bodyEnd
  | at (index : Nat)
deriving DecidableEq, Repr, Inhabited

/-- An edit of the document body. -/
inductive Request where
  | insertText (text : Text) (place : Place)
  | insertTable (rows columns : Nat) (place : Place)
  | insertImage (uri : Text) (index : Nat)
  | deleteRange (start stop : Nat)
  | styleText (start stop : Nat) (style : TextStyle)
  | replaceText (find replacement : Text) (matchCase : Bool)
deriving Repr, Inhabited

/-! ## Wire form, for positions of any sign -/

namespace Wire

/-- A place, as the part of a request that names it. -/
def place : Option Int → String × Value
  | none => ("endOfSegmentLocation", .record [("segmentId", .str "")])
  | some index => ("location", .record [("index", .int index)])

/-- A range, as the part of a request that names it. -/
def range (start stop : Int) : String × Value :=
  ("range", .record [("startIndex", .int start), ("endIndex", .int stop)])

/-- The insertion of text. -/
def insertText (text : String) (index : Option Int) : Value :=
  .record [("insertText", .record [("text", .str text), place index])]

/-- The insertion of an empty table. -/
def insertTable (rows columns : Int) (index : Option Int) : Value :=
  .record [("insertTable", .record [("rows", .int rows), ("columns", .int columns), place index])]

/-- The insertion of an image. -/
def insertImage (uri : String) (index : Int) : Value :=
  .record [("insertInlineImage", .record [("uri", .str uri), place (some index)])]

/-- The deletion of a range. -/
def deleteRange (start stop : Int) : Value :=
  .record [("deleteContentRange", .record [range start stop])]

/-- The styling of a range; the mask names the attributes of the style. -/
def styleText (start stop : Int) (style : TextStyle) : Value :=
  .record [("updateTextStyle", .record [range start stop, ("textStyle", .record style),
    ("fields", .str style.mask)])]

/-- The replacement of a text wherever it stands. -/
def replaceText (find replacement : String) (matchCase : Bool) : Value :=
  .record [("replaceAllText", .record [
    ("containsText", .record [("text", .str find), ("matchCase", .bool matchCase)]),
    ("replaceText", .str replacement)])]

/-- The kind of a request in wire form. -/
def kind? : Value → Option String
  | .map ((.str kind, _) :: _) => some kind
  | _ => none

/-- The text a request in wire form adds to the body. -/
def insertedText? (request : Value) : Option String :=
  match kind? request with
  | some "insertText" => do ((← request.get? "insertText").get? "text").bind Value.string?
  | some _ => some ""
  | none => none

end Wire

namespace Request

/-- The kind of a request. -/
def kind : Request → String
  | .insertText .. => "insertText"
  | .insertTable .. => "insertTable"
  | .insertImage .. => "insertInlineImage"
  | .deleteRange .. => "deleteContentRange"
  | .styleText .. => "updateTextStyle"
  | .replaceText .. => "replaceAllText"

/-- The text a request adds to the body. -/
def insertedText : Request → Text
  | .insertText text _ => text
  | _ => []

/-- The index of a place, which the end of the body has none of. -/
def placeIndex : Place → Option Int
  | .bodyEnd => none
  | .at index => some index

/-- The wire form of a request. -/
def toValue : Request → Value
  | .insertText text place => Wire.insertText (String.ofList text) (placeIndex place)
  | .insertTable rows columns place => Wire.insertTable rows columns (placeIndex place)
  | .insertImage uri index => Wire.insertImage (String.ofList uri) index
  | .deleteRange start stop => Wire.deleteRange start stop
  | .styleText start stop style => Wire.styleText start stop style
  | .replaceText find replacement matchCase =>
      Wire.replaceText (String.ofList find) (String.ofList replacement) matchCase

end Request

end DocBinder.Docs
