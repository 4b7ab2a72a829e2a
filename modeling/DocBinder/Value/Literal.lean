import DocBinder.Decimal.Shortest
import DocBinder.Text.Printable
import DocBinder.Value.Basic

/-!
# Literals

The text of a value inside a message. A text stands for itself; inside a collection it is quoted,
with single quotes unless it holds some and no double quote, and with escapes for what cannot be
printed.
-/

namespace DocBinder

/-- A number with zeros in front up to a width. -/
def padZeros (width number : Nat) : String :=
  let digits := toString number
  String.ofList (List.replicate (width - digits.length) '0') ++ digits

/-- A number in lower-case hexadecimal with zeros in front up to a width. -/
def hexDigits (width number : Nat) : List Char :=
  let digits := Nat.toDigits 16 number
  List.replicate (width - digits.length) '0' ++ digits

namespace Date

/-- A date as `2024-01-05`. -/
def text (date : Date) : String :=
  padZeros 4 date.year ++ "-" ++ padZeros 2 date.month ++ "-" ++ padZeros 2 date.day

end Date

namespace Moment

/-- The distance from universal time as `+05:30`. -/
def zoneText (minutes : Int) : String :=
  (if minutes < 0 then "-" else "+") ++ padZeros 2 (minutes.natAbs / 60) ++ ":"
    ++ padZeros 2 (minutes.natAbs % 60)

/-- A moment with the given text between date and time. -/
def text (moment : Moment) (separator : String) : String :=
  moment.date.text ++ separator ++ padZeros 2 moment.hour ++ ":" ++ padZeros 2 moment.minute ++ ":"
    ++ padZeros 2 moment.second
    ++ (if moment.microsecond == 0 then "" else "." ++ padZeros 6 moment.microsecond)
    ++ (moment.zone.map zoneText).getD ""

/-- The literal of a distance in time other than zero. -/
def distanceLiteral (minutes : Int) : String :=
  let days := Int.fdiv minutes 1440
  let seconds := (Int.fmod minutes 1440) * 60
  let parts := (if days == 0 then [] else [s!"days={days}"])
    ++ (if seconds == 0 then [] else [s!"seconds={seconds}"])
  "datetime.timedelta(" ++ ", ".intercalate parts ++ ")"

/-- The literal of a time zone. -/
def zoneLiteral (minutes : Int) : String :=
  if minutes == 0 then "datetime.timezone.utc"
  else "datetime.timezone(" ++ distanceLiteral minutes ++ ")"

/-- The literal of a moment: seconds and fractions stand only where they are not zero. -/
def literal (moment : Moment) : String :=
  let times :=
    if moment.microsecond != 0 then [moment.second, moment.microsecond]
    else if moment.second != 0 then [moment.second]
    else []
  let numbers :=
    [moment.date.year, moment.date.month, moment.date.day, moment.hour, moment.minute] ++ times
  let zone := (moment.zone.map fun minutes => ["tzinfo=" ++ zoneLiteral minutes]).getD []
  "datetime.datetime(" ++ ", ".intercalate (numbers.map toString ++ zone) ++ ")"

end Moment

namespace Value

/-- A character inside quotes. -/
def quoteChar (quote character : Char) : List Char :=
  let code := character.toNat
  if character = quote || character = '\\' then ['\\', character]
  else if character = '\n' then ['\\', 'n']
  else if character = '\r' then ['\\', 'r']
  else if character = '\t' then ['\\', 't']
  else if Text.isPrintable character then [character]
  else if code < 0x100 then '\\' :: 'x' :: hexDigits 2 code
  else if code < 0x10000 then '\\' :: 'u' :: hexDigits 4 code
  else '\\' :: 'U' :: hexDigits 8 code

/-- A text in quotes. -/
def quoteText (text : String) : String :=
  let characters := text.toList
  let quote := if characters.contains '\'' && !characters.contains '"' then '"' else '\''
  String.ofList (quote :: characters.flatMap (quoteChar quote) ++ [quote])

/-- A byte inside quotes. -/
def quoteByte (quote : Char) (byte : UInt8) : List Char :=
  let character := Char.ofNat byte.toNat
  if character = quote || character = '\\' then ['\\', character]
  else if character = '\n' then ['\\', 'n']
  else if character = '\r' then ['\\', 'r']
  else if character = '\t' then ['\\', 't']
  else if 0x20 ≤ byte && byte < 0x7F then [character]
  else '\\' :: 'x' :: hexDigits 2 byte.toNat

/-- Bytes in quotes. -/
def quoteBytes (content : List UInt8) : String :=
  let characters := content.map fun byte => Char.ofNat byte.toNat
  let quote := if characters.contains '\'' && !characters.contains '"' then '"' else '\''
  String.ofList ('b' :: quote :: content.flatMap (quoteByte quote) ++ [quote])

mutual

/-- The literal of a value. -/
def literal : Value → String
  | .null => "None"
  | .bool true => "True"
  | .bool false => "False"
  | .int value => toString value
  | .float value => Decimal.floatText value
  | .str content => quoteText content
  | .list items => "[" ++ ", ".intercalate (literals items) ++ "]"
  | .map entries => "\x7b" ++ ", ".intercalate (entryLiterals entries) ++ "\x7d"
  | .date day => s!"datetime.date({day.year}, {day.month}, {day.day})"
  | .moment time => time.literal
  | .bytes content => quoteBytes content
  | .set [] => "set()"
  | .set items => "\x7b" ++ ", ".intercalate (literals items) ++ "\x7d"

/-- The literals of items. -/
def literals : List Value → List String
  | [] => []
  | item :: rest => literal item :: literals rest

/-- The literals of the entries of a mapping. -/
def entryLiterals : List (Value × Value) → List String
  | [] => []
  | (key, value) :: rest => (literal key ++ ": " ++ literal value) :: entryLiterals rest

end

/-- The text of a value on its own: a text stands for itself, a moment has a blank between date
and time, and all else is its literal. -/
def text : Value → String
  | .str content => content
  | .date day => day.text
  | .moment time => time.text " "
  | value => value.literal

/-- The name of a value's type in a message. -/
def typeName : Value → String
  | .null => "NoneType"
  | .bool _ => "bool"
  | .int _ => "int"
  | .float _ => "float"
  | .str _ => "str"
  | .list _ => "list"
  | .map _ => "dict"
  | .date _ => "date"
  | .moment _ => "datetime"
  | .bytes _ => "bytes"
  | .set _ => "set"

end Value

end DocBinder
