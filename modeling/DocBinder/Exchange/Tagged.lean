import DocBinder.Exchange.Fields

/-!
# Tagged values

A plain value that tells apart what a plain data format does not: whole numbers too large to be
exact, floating-point numbers, mappings with keys of any type, dates, bytes and sets are put under a
name that says what they are.
-/

namespace DocBinder.Exchange

mutual

/-- The tagged form of a value. -/
def tagged : Value → Value
  | .int number =>
      if number.natAbs < Nat.pow 2 53 then .int number
      else .record [("int", .str (toString number))]
  | .float number => .record [("float", .str (Value.text (.float number)))]
  | .list items => .list (taggedItems items)
  | .map entries => .record [("map", .list (taggedEntries entries))]
  | .date day => .record [("date", .str day.text)]
  | .moment time => .record [("datetime", .str (time.text "T"))]
  | .bytes content =>
      .record [("bytes", textValue (content.flatMap fun byte => hexDigits 2 byte.toNat))]
  | .set items => .record [("set", .list (taggedItems items))]
  | value => value

/-- The tagged forms of items. -/
def taggedItems : List Value → List Value
  | [] => []
  | item :: rest => tagged item :: taggedItems rest

/-- The tagged forms of entries, each a pair. -/
def taggedEntries : List (Value × Value) → List Value
  | [] => []
  | (key, value) :: rest => .list [tagged key, tagged value] :: taggedEntries rest

end

end DocBinder.Exchange
