import DocBinder.Text.Basic
import DocBinder.Value.Basic

/-!
# Reading JSON

A reader of JSON texts that also takes the names of the special numbers. A text that is not JSON
is refused with the first thing that was missing or wrong, and its place.
-/

namespace DocBinder.Json

/-- What is wrong with a text that is not JSON. -/
inductive Defect where
  | value
  | propertyName
  | colon
  | comma
  | unterminated
  | control
  | escape
  | unicodeEscape
  | extra
  | byteOrderMark
deriving DecidableEq, Repr

/-- The defect in words. -/
def Defect.message : Defect → String
  | .value => "Expecting value"
  | .propertyName => "Expecting property name enclosed in double quotes"
  | .colon => "Expecting ':' delimiter"
  | .comma => "Expecting ',' delimiter"
  | .unterminated => "Unterminated string starting at"
  | .control => "Invalid control character at"
  | .escape => "Invalid \\escape"
  | .unicodeEscape => "Invalid \\uXXXX escape"
  | .extra => "Extra data"
  | .byteOrderMark => "Unexpected UTF-8 BOM (decode using utf-8-sig)"

/-- A defect, with the text from its place on. A step of the reader either ends in one or gives
what was read and the text after it. -/
structure Fault where
  defect : Defect
  rest : Text
deriving Repr

/-- The text after the blanks of the format. -/
def skipBlanks (text : Text) : Text :=
  text.dropWhile fun character =>
    character == ' ' || character == '\t' || character == '\n' || character == '\r'

/-- The value of a hexadecimal digit. -/
def hexValue? (character : Char) : Option Nat :=
  if '0' ≤ character && character ≤ '9' then some (character.toNat - 48)
  else if 'a' ≤ character && character ≤ 'f' then some (character.toNat - 87)
  else if 'A' ≤ character && character ≤ 'F' then some (character.toNat - 55)
  else none

/-- The number of hexadecimal digits. -/
def hexNumber? (digits : Text) : Option Nat :=
  digits.foldl (fun number digit => do return (← number) * 16 + (← hexValue? digit)) (some 0)

/-- The code unit of an escape of four digits, and the text after it. -/
def unicodeEscape (backslash text : Text) : Except Fault (Nat × Text) :=
  match text with
  | a :: b :: c :: d :: rest =>
      match rest, hexNumber? [a, b, c, d] with
      | _ :: _, some code => .ok (code, rest)
      | _, _ => .error ⟨.unicodeEscape, backslash.drop 1⟩
  | _ => .error ⟨.unicodeEscape, backslash.drop 1⟩

/-- The character of a short escape. -/
def shortEscape? : Char → Option Char
  | '"' => some '"'
  | '\\' => some '\\'
  | '/' => some '/'
  | 'b' => some '\x08'
  | 'f' => some '\x0c'
  | 'n' => some '\n'
  | 'r' => some '\r'
  | 't' => some '\t'
  | _ => none

/-- Whether a code unit opens a pair. -/
def isHighSurrogate (code : Nat) : Bool :=
  0xD800 ≤ code && code < 0xDC00

/-- Whether a code unit closes a pair. -/
def isLowSurrogate (code : Nat) : Bool :=
  0xDC00 ≤ code && code < 0xE000

/-- The character of a code, where half a pair has no character of its own. -/
def scalar (code : Nat) : Char :=
  if isHighSurrogate code || isLowSurrogate code then '\ufffd' else Char.ofNat code

/-- One character of a string, which may be written as an escape. -/
def stringChar (opening text : Text) : Except Fault (Char × Text) :=
  match text with
  | [] => .error ⟨.unterminated, opening⟩
  | '\\' :: 'u' :: rest => do
      let (code, rest) ← unicodeEscape text rest
      if isHighSurrogate code then
        match rest with
        | '\\' :: 'u' :: a :: b :: c :: d :: after =>
            match hexNumber? [a, b, c, d] with
            | some low =>
                if isLowSurrogate low then
                  return (Char.ofNat (0x10000 + (code - 0xD800) * 0x400 + (low - 0xDC00)), after)
                else return (scalar code, rest)
            | none => return (scalar code, rest)
        | _ => return (scalar code, rest)
      else return (scalar code, rest)
  | '\\' :: character :: rest =>
      match shortEscape? character with
      | some character => .ok (character, rest)
      | none => .error ⟨.escape, text⟩
  | ['\\'] => .error ⟨.unterminated, opening⟩
  | character :: rest =>
      if character.toNat < 0x20 then .error ⟨.control, text⟩ else .ok (character, rest)

/-- The characters of a string up to its closing quote. The fuel is the length of the text. -/
def stringBody (opening : Text) : Nat → Text → List Char → Except Fault (String × Text)
  | 0, _, _ => .error ⟨.unterminated, opening⟩
  | fuel + 1, text, read =>
      match text with
      | '"' :: rest => .ok (String.ofList read.reverse, rest)
      | _ => do
          let (character, rest) ← stringChar opening text
          stringBody opening fuel rest (character :: read)

/-- The number of decimal digits. -/
def decimalNumber (digits : Text) : Nat :=
  digits.foldl (fun number digit => 10 * number + (digit.toNat - 48)) 0

/-- The digits of an exponent with its sign, and the text after them. -/
def exponentPart (text : Text) : Option (Int × Text) :=
  match text with
  | mark :: rest =>
      if mark == 'e' || mark == 'E' then
        let (negative, rest) := match rest with
          | '-' :: rest => (true, rest)
          | '+' :: rest => (false, rest)
          | rest => (false, rest)
        let digits := rest.takeWhile Char.isDigit
        if digits.isEmpty then none
        else
          let size : Int := decimalNumber digits
          some (if negative then -size else size, rest.drop digits.length)
      else none
  | [] => none

/-- The double nearest to `digits · 10 ^ power`. -/
def doubleOf (negative : Bool) (digits : Nat) (power : Int) : Float :=
  let size :=
    if digits == 0 then 0.0
    else if power > 400 then Float.ofScientific 1 false 400
    else if power < -((toString digits).length + 400 : Int) then 0.0
    else Float.ofScientific digits (power < 0) power.natAbs
  if negative then -size else size

/-- A number: a whole one, or a double when it has a fraction or an exponent. -/
def number? (text : Text) : Option (Value × Text) :=
  let (negative, unsigned) := match text with
    | '-' :: rest => (true, rest)
    | rest => (false, rest)
  let whole := match unsigned with
    | '0' :: _ => ['0']
    | rest => rest.takeWhile Char.isDigit
  if whole.isEmpty then none
  else
    let rest := unsigned.drop whole.length
    let fraction := match rest with
      | '.' :: after => after.takeWhile Char.isDigit
      | _ => []
    let rest := if fraction.isEmpty then rest else rest.drop (fraction.length + 1)
    match fraction.isEmpty, exponentPart rest with
    | true, none =>
        let size : Int := decimalNumber whole
        some (.int (if negative then -size else size), rest)
    | false, none =>
        some
          (.float (doubleOf negative (decimalNumber (whole ++ fraction)) (-fraction.length)), rest)
    | _, some (exponent, rest) =>
        let power := exponent - fraction.length
        some (.float (doubleOf negative (decimalNumber (whole ++ fraction)) power), rest)

/-- The words of the format and what they stand for. -/
def words : List (Text × Value) :=
  [("null".toList, .null), ("true".toList, .bool true), ("false".toList, .bool false),
    ("NaN".toList, .float (0.0 / 0.0)), ("Infinity".toList, .float (1.0 / 0.0)),
    ("-Infinity".toList, .float (-1.0 / 0.0))]

/-- A word or a number at the head of a text. -/
def plain (text : Text) : Except Fault (Value × Text) :=
  match words.findSome? fun (word, value) => (Text.drop? word text).map (value, ·) with
  | some found => .ok found
  | none =>
      match number? text with
      | some found => .ok found
      | none => .error ⟨.value, text⟩

mutual

/-- A value at the head of a text. The fuel bounds the nesting and the number of parts. -/
def value : Nat → Text → Except Fault (Value × Text)
  | 0, text => .error ⟨.value, text⟩
  | fuel + 1, text =>
      match text with
      | '"' :: rest => do
          let (content, rest) ← stringBody text (rest.length + 1) rest []
          return (.str content, rest)
      | '[' :: rest =>
          match skipBlanks rest with
          | ']' :: rest => .ok (.list [], rest)
          | rest => do
              let (items, rest) ← listItems fuel rest
              return (.list items, rest)
      | '\x7b' :: rest =>
          match skipBlanks rest with
          | '\x7d' :: rest => .ok (.map [], rest)
          | rest => do
              let (entries, rest) ← members fuel rest []
              return (.map entries, rest)
      | _ => plain text

/-- The items of a list up to its closing bracket. -/
def listItems : Nat → Text → Except Fault (List Value × Text)
  | 0, text => .error ⟨.value, text⟩
  | fuel + 1, text => do
      let (item, rest) ← value fuel text
      match skipBlanks rest with
      | ']' :: rest => return ([item], rest)
      | ',' :: rest =>
          let (items, rest) ← listItems fuel (skipBlanks rest)
          return (item :: items, rest)
      | rest => .error ⟨.comma, rest⟩

/-- The members of an object up to its closing brace. -/
def members : Nat → Text → List (Value × Value) → Except Fault (List (Value × Value) × Text)
  | 0, text, _ => .error ⟨.value, text⟩
  | fuel + 1, text, read =>
      match text with
      | '"' :: rest => do
          let (name, rest) ← stringBody text (rest.length + 1) rest []
          match skipBlanks rest with
          | ':' :: rest =>
              let (item, rest) ← value fuel (skipBlanks rest)
              let read := Value.put (.str name) item read
              match skipBlanks rest with
              | '\x7d' :: rest => return (read, rest)
              | ',' :: rest => members fuel (skipBlanks rest) read
              | rest => .error ⟨.comma, rest⟩
          | rest => .error ⟨.colon, rest⟩
      | _ => .error ⟨.propertyName, text⟩

end

/-- The message of a fault in a text: the defect, and its line, column and position. -/
def Fault.message (fault : Fault) (text : Text) : String :=
  let position := text.length - fault.rest.length
  let before := text.take position
  let line := before.count '\n' + 1
  let column := (before.reverse.takeWhile (· != '\n')).length + 1
  s!"{fault.defect.message}: line {line} column {column} (char {position})"

/-- The value a JSON text stands for, or what is wrong with the text. -/
def read (text : Text) : Except String Value :=
  let result : Except Fault Value :=
    match text with
    | '\ufeff' :: _ => .error ⟨.byteOrderMark, text⟩
    | _ => do
        let (content, rest) ← value (2 * text.length + 2) (skipBlanks text)
        match skipBlanks rest with
        | [] => return content
        | rest => .error ⟨.extra, rest⟩
  result.mapError (·.message text)

end DocBinder.Json
