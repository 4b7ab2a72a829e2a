import DocBinder.Decimal.Shortest
import DocBinder.Value.Literal

/-!
# Writing JSON

The JSON text of a value. Strings are written either with every character outside ASCII as an
escape, or with such characters as they are.
-/

namespace DocBinder.Json

/-- An escape of one code unit. -/
def unitEscape (code : Nat) : List Char :=
  '\\' :: 'u' :: hexDigits 4 code

/-- A character inside a string. -/
def escapeChar (ascii : Bool) (character : Char) : List Char :=
  let code := character.toNat
  if character = '"' || character = '\\' then ['\\', character]
  else if character = '\n' then ['\\', 'n']
  else if character = '\r' then ['\\', 'r']
  else if character = '\t' then ['\\', 't']
  else if character = '\x08' then ['\\', 'b']
  else if character = '\x0c' then ['\\', 'f']
  else if code < 0x20 then unitEscape code
  else if ascii && code ≥ 0x7F then
    if code = 0x7F then [character]
    else if code < 0x10000 then unitEscape code
    else
      let offset := code - 0x10000
      unitEscape (0xD800 + offset / 0x400) ++ unitEscape (0xDC00 + offset % 0x400)
  else [character]

/-- A string. -/
def quoted (ascii : Bool) (text : String) : String :=
  String.ofList ('"' :: text.toList.flatMap (escapeChar ascii) ++ ['"'])

mutual

/-- The text of a value. A value that JSON has no form for is written as its text. -/
def write : Value → String
  | .null => "null"
  | .bool true => "true"
  | .bool false => "false"
  | .int value => toString value
  | .float value => Decimal.floatText value
  | .str text => quoted false text
  | .list items => "[" ++ ",".intercalate (writeItems items) ++ "]"
  | .map entries => "\x7b" ++ ",".intercalate (writeEntries entries) ++ "\x7d"
  | .set items => "[" ++ ",".intercalate (writeItems items) ++ "]"
  | value => quoted false value.text

/-- The texts of items. -/
def writeItems : List Value → List String
  | [] => []
  | item :: rest => write item :: writeItems rest

/-- The texts of the members of an object. -/
def writeEntries : List (Value × Value) → List String
  | [] => []
  | (key, value) :: rest => (quoted false key.text ++ ":" ++ write value) :: writeEntries rest

end

end DocBinder.Json
