import DocBinder.Docs.Snapshot

/-!
# Flat text

The characters of a snapshot in order, each with its index in the document. Searches run on the
characters; what they find is mapped back to index units.
-/

namespace DocBinder.Docs

/-- Characters of a document, each with its index. -/
structure FlatText where
  marks : List (Char × Nat)
deriving DecidableEq, Repr, Inhabited

/-- A range of a flat text that is empty or out of bounds. -/
structure RangeFault where
  start : Int
  stop : Int
deriving DecidableEq, Repr, Inhabited

/-- The fault in words. -/
def RangeFault.message (fault : RangeFault) : String :=
  s!"Invalid flattened range [{fault.start}, {fault.stop})"

/-- The characters of a text, the first of which stands at `index`. -/
def placeChars (index : Nat) : Text → List (Char × Nat)
  | [] => []
  | character :: rest =>
      (character, index) :: placeChars (index + Text.charWidth character) rest

mutual

/-- The characters of an element. Those inside tables count only when asked for. -/
def Element.marks (withTables : Bool) : Element → List (Char × Nat)
  | .paragraph _ _ runs => runs.flatMap fun run => placeChars run.start run.content
  | .table _ _ rows => if withTables then rowsMarks withTables rows else []
  | _ => []

/-- The characters of elements in order. -/
def elementsMarks (withTables : Bool) : List Element → List (Char × Nat)
  | [] => []
  | element :: rest => element.marks withTables ++ elementsMarks withTables rest

/-- The characters of a cell. -/
def Cell.marks (withTables : Bool) : Cell → List (Char × Nat)
  | .mk _ _ content => elementsMarks withTables content

/-- The characters of a row of cells. -/
def cellsMarks (withTables : Bool) : List Cell → List (Char × Nat)
  | [] => []
  | cell :: rest => cell.marks withTables ++ cellsMarks withTables rest

/-- The characters of the rows of a table, row by row. -/
def rowsMarks (withTables : Bool) : List (List Cell) → List (Char × Nat)
  | [] => []
  | row :: rest => cellsMarks withTables row ++ rowsMarks withTables rest

end

/-- The characters of a snapshot in document order, with or without those inside tables. -/
def Snapshot.flatten (snapshot : Snapshot) (withTables : Bool) : FlatText :=
  ⟨elementsMarks withTables snapshot.elements⟩

namespace FlatText

/-- The characters. -/
def text (flat : FlatText) : Text :=
  flat.marks.map (·.1)

/-- The index of each character. -/
def offsets (flat : FlatText) : List Nat :=
  flat.marks.map (·.2)

/-- The first position at or after `start` at which a text stands. -/
def find? (flat : FlatText) (needle : Text) (start : Nat) : Option Nat :=
  Text.find? flat.text needle start

/-- The positions of a text, left to right and without overlap. -/
def findAll (flat : FlatText) (needle : Text) : List Nat :=
  Text.occurrences flat.text needle

/-- The index units that the characters from `start` up to `stop` cover. -/
def realRange (flat : FlatText) (start stop : Nat) : Except RangeFault (Nat × Nat) :=
  if start < stop then
    match flat.marks[start]?, flat.marks[stop - 1]? with
    | some (_, first), some (character, last) => .ok (first, last + Text.charWidth character)
    | _, _ => .error ⟨start, stop⟩
  else .error ⟨start, stop⟩

/-- The range of positions of any sign. -/
def realRangeInt (flat : FlatText) (start stop : Int) : Except RangeFault (Nat × Nat) :=
  if 0 ≤ start then (flat.realRange start.toNat stop.toNat).mapError fun _ => ⟨start, stop⟩
  else .error ⟨start, stop⟩

/-- Halve the range of positions from `low` to `high` until it holds the first one whose index is
not below the given one. -/
def bisect (offsets : Array Nat) (index low high : Nat) : Nat :=
  if h : low < high then
    let middle := (low + high) / 2
    if offsets.getD middle 0 < index then bisect offsets index (middle + 1) high
    else bisect offsets index low middle
  else low
termination_by high - low

/-- The first position whose index is not below the given one. -/
def positionAtOrAfter (flat : FlatText) (index : Nat) : Nat :=
  bisect flat.offsets.toArray index 0 flat.offsets.length

end FlatText

end DocBinder.Docs
