import DocBinder.Decimal.Binary

/-!
# Values

The data that configuration files, front matter, state files and the remote service exchange. A
mapping keeps the order in which its keys first appeared.
-/

namespace DocBinder

/-- A day of the calendar. -/
structure Date where
  year : Nat
  month : Nat
  day : Nat
deriving DecidableEq, Repr, Inhabited

/-- A moment of a day, with the distance from universal time in minutes when it is known. -/
structure Moment where
  date : Date
  hour : Nat
  minute : Nat
  second : Nat
  microsecond : Nat
  zone : Option Int
deriving DecidableEq, Repr, Inhabited

/-- A value of a data format. -/
inductive Value where
  | null
  | bool (value : Bool)
  | int (value : Int)
  | float (value : Float)
  | str (value : String)
  | list (items : List Value)
  | map (entries : List (Value × Value))
  | date (value : Date)
  | moment (value : Moment)
  | bytes (value : List UInt8)
  | set (items : List Value)
deriving Repr, Inhabited

namespace Value

/-- The number a value counts as in comparisons, where the truth values are one and zero. -/
def number? : Value → Option Decimal.Binary
  | .bool value => some (Decimal.Binary.ofInt (if value then 1 else 0))
  | .int value => some (Decimal.Binary.ofInt value)
  | .float value => some (Decimal.Binary.ofFloat value)
  | _ => none

/-- Whether two values are the same key of a mapping: numbers by their size, whatever their
type. -/
def sameKey : Value → Value → Bool
  | .null, .null => true
  | .str first, .str second => first == second
  | .date first, .date second => first == second
  | .moment first, .moment second => first == second
  | .bytes first, .bytes second => first == second
  | first, second =>
      match first.number?, second.number? with
      | some left, some right => left.eq right
      | _, _ => false

/-- Whether a value can be a key of a mapping. -/
def isKey : Value → Bool
  | .list _ => false
  | .map _ => false
  | .set _ => false
  | _ => true

/-- Set a key of a mapping. A key that is there already keeps its place and takes the new
value. -/
def put (key value : Value) : List (Value × Value) → List (Value × Value)
  | [] => [(key, value)]
  | (first, old) :: rest =>
      if sameKey first key then (first, value) :: rest else (first, old) :: put key value rest

/-- A mapping with names for keys. -/
def record (fields : List (String × Value)) : Value :=
  .map (fields.map fun (name, value) => (.str name, value))

/-- The value of a name among the entries of a mapping. -/
def lookup (name : String) : List (Value × Value) → Option Value
  | [] => none
  | (.str key, value) :: rest => if key == name then some value else lookup name rest
  | _ :: rest => lookup name rest

/-- The value of a name in a mapping; no other value has named parts. -/
def get? (value : Value) (name : String) : Option Value :=
  match value with
  | .map entries => lookup name entries
  | _ => none

/-- The value of a name in a mapping, or null. -/
def part (value : Value) (name : String) : Value :=
  (value.get? name).getD .null

/-- The items of a list; no other value has items. -/
def items : Value → List Value
  | .list items => items
  | _ => []

/-- The text of a string. -/
def string? : Value → Option String
  | .str text => some text
  | _ => none

/-- A natural number. -/
def nat? : Value → Option Nat
  | .int value => if value < 0 then none else some value.toNat
  | _ => none

/-- A whole number, where the truth values are one and zero. -/
def int? : Value → Option Int
  | .int value => some value
  | .bool value => some (if value then 1 else 0)
  | _ => none

/-- Whether a value counts as nothing: null, false, zero, and the empty text or collection. -/
def isEmpty : Value → Bool
  | .null => true
  | .bool value => !value
  | .int value => value == 0
  | .float value => value == 0
  | .str text => text.isEmpty
  | .list items => items.isEmpty
  | .map entries => entries.isEmpty
  | .bytes content => content.isEmpty
  | .set items => items.isEmpty
  | _ => false

theorem sizeOf_lookup_lt {name : String} {found : Value} :
    ∀ {entries : List (Value × Value)}, lookup name entries = some found →
      sizeOf found < sizeOf entries
  | [], h => by simp [lookup] at h
  | (key, value) :: rest, h => by
      have step : lookup name rest = some found → sizeOf found < sizeOf ((key, value) :: rest) := by
        intro below
        have := sizeOf_lookup_lt below
        simp only [List.cons.sizeOf_spec]
        omega
      cases key with
      | str text =>
          simp only [lookup] at h
          split at h
          · cases h
            simp only [List.cons.sizeOf_spec, Prod.mk.sizeOf_spec]
            omega
          · exact step h
      | _ => exact step h

/-- A part of a value is no larger than the value. -/
theorem sizeOf_part_le (value : Value) (name : String) :
    sizeOf (value.part name) ≤ sizeOf value := by
  unfold part
  cases h : value.get? name with
  | none =>
      have : 1 ≤ sizeOf value := by cases value <;> simp
      simpa using this
  | some found =>
      cases value with
      | map entries =>
          have := sizeOf_lookup_lt (show lookup name entries = some found from h)
          simp only [Option.getD_some, Value.map.sizeOf_spec]
          omega
      | _ => simp [get?] at h

/-- An item of a value is smaller than the value. -/
theorem sizeOf_lt_of_mem_items {value item : Value} (h : item ∈ value.items) :
    sizeOf item < sizeOf value := by
  cases value with
  | list entries =>
      have := List.sizeOf_lt_of_mem (show item ∈ entries from h)
      simp only [Value.list.sizeOf_spec]
      omega
  | _ => simp [items] at h

end Value

end DocBinder
