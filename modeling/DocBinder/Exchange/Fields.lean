import DocBinder.Text.Basic
import DocBinder.Value.Literal

/-!
# Fields of exchanged values

Programs exchange the data of this library as plain values: records of named fields. Reading is
lenient, because the sender may leave out what has a default: a field that is absent, or holds
something of another type, reads as the default of what is asked for.
-/

namespace DocBinder.Exchange

/-- A text as a value. -/
def textValue (text : Text) : Value :=
  .str (String.ofList text)

/-- A count or position as a value. -/
def natValue (number : Nat) : Value :=
  .int number

/-- The items of a list as values. -/
def listValue {α : Type} (items : List α) (toValue : α → Value) : Value :=
  .list (items.map toValue)

/-- Something that may be absent, as a value. -/
def optionValue {α : Type} (item : Option α) (toValue : α → Value) : Value :=
  (item.map toValue).getD .null

/-- The string that a value is, else the empty one. -/
def readString (value : Value) : String :=
  value.string?.getD ""

/-- The text that a value is, else the empty one. -/
def readText (value : Value) : Text :=
  (readString value).toList

/-- The whole number that a value is, else zero. -/
def readInt (value : Value) : Int :=
  value.int?.getD 0

/-- The natural number that a value is, else zero. -/
def readNat (value : Value) : Nat :=
  (readInt value).toNat

/-- The truth value that a value is, else false. -/
def readBool : Value → Bool
  | .bool value => value
  | _ => false

/-- What a value other than null reads as. -/
def readOption {α : Type} (value : Value) (read : Value → α) : Option α :=
  match value with
  | .null => none
  | value => some (read value)

/-- The string of a field, with a default. -/
def stringField (value : Value) (name default : String) : String :=
  (readOption (value.part name) readString).getD default

/-- The natural number of a field, with a default. -/
def natField (value : Value) (name : String) (default : Nat) : Nat :=
  (readOption (value.part name) readNat).getD default

/-- What a field other than null reads as. -/
def optionField {α : Type} (value : Value) (name : String) (read : Value → α) : Option α :=
  readOption (value.part name) read

/-- What the items of a field read as. -/
def listField {α : Type} (value : Value) (name : String) (read : Value → α) : List α :=
  (value.part name).items.map read

/-- The item at a place in a list, where a negative place counts from the end. Before the first item
there is none, and past the last one stands `beyond`. -/
def itemAt? {α : Type} (items : List α) (place : Int) (beyond : Option α) : Option α :=
  if place < 0 then
    let place := place + items.length
    if place < 0 then none else items[place.toNat]?
  else (items[place.toNat]?).orElse fun _ => beyond

/-- The item at a row and a column, which may count from the end. `beyond` stands past the last row
and past the last column. -/
def itemInRow? {α : Type} (rows : List (List α)) (row column : Int) (beyond : α) : Option α :=
  if rows.length ≤ row then some beyond
  else (itemAt? rows row none).bind fun items => itemAt? items column (some beyond)

/-- The entries of a mapping whose keys are strings. -/
def entries : Value → List (String × Value)
  | .map entries => entries.filterMap fun (key, value) => key.string?.map (·, value)
  | _ => []

end DocBinder.Exchange
