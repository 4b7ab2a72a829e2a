import DocBinder.Decimal.Numeral
import DocBinder.Yaml.Moment

/-!
# Typed scalars

A plain scalar without a tag is read as what it looks like: nothing, a truth value, a number, a day
or a moment, and else a string. A tag says what a scalar has to be read as.
-/

namespace DocBinder.Yaml

open Decimal

/-- What a node is read as. The two special kinds stand for the key that merges mappings and the
key of a default value. -/
inductive Kind where
  | string
  | nothing
  | truth
  | whole
  | decimal
  | moment
  | binary
  | merge
  | default
  | list
  | mapping
  | set
  | pairs
deriving DecidableEq, Repr, Inhabited

/-- The kind that a tag names, if it names one. -/
def Kind.ofTag? : String → Option Kind
  | "tag:yaml.org,2002:str" => some .string
  | "tag:yaml.org,2002:null" => some .nothing
  | "tag:yaml.org,2002:bool" => some .truth
  | "tag:yaml.org,2002:int" => some .whole
  | "tag:yaml.org,2002:float" => some .decimal
  | "tag:yaml.org,2002:timestamp" => some .moment
  | "tag:yaml.org,2002:binary" => some .binary
  | "tag:yaml.org,2002:merge" => some .merge
  | "tag:yaml.org,2002:value" => some .default
  | "tag:yaml.org,2002:seq" => some .list
  | "tag:yaml.org,2002:map" => some .mapping
  | "tag:yaml.org,2002:set" => some .set
  | "tag:yaml.org,2002:omap" => some .pairs
  | "tag:yaml.org,2002:pairs" => some .pairs
  | _ => none

/-! ## What plain scalars look like -/

/-- The words for truth and falsehood. -/
def truthWords : List (Text × Bool) :=
  [("yes".toList, true), ("no".toList, false), ("true".toList, true), ("false".toList, false),
    ("on".toList, true), ("off".toList, false)]

/-- A word as it is, with a capital, and in capitals. -/
def spellings (word : Text) : List Text :=
  [word, (word.take 1).map Char.toUpper ++ word.drop 1, word.map Char.toUpper]

/-- The words for what is no number. -/
def nanWords : List Text :=
  ["nan".toList, "NaN".toList, "NAN".toList]

/-- Whether a plain scalar is a truth value. -/
def isTruth (text : Text) : Bool :=
  truthWords.any fun (word, _) => (spellings word).contains text

/-- Whether a plain scalar is nothing. -/
def isNothing (text : Text) : Bool :=
  text.isEmpty || text == ['~'] || (spellings "null".toList).contains text

/-- Whether a character can follow the first digit of a number. -/
def isDigitOrLine (character : Char) : Bool :=
  character.isDigit || character == '_'

/-- Whether a text is one or more parts of a number in base sixty, each after a colon. -/
def isSexagesimal (text : Text) : Bool :=
  match Text.splitOn ':' text with
  | [] :: part :: parts => (part :: parts).all fun part =>
      match part with
      | [digit] => digit.isDigit
      | [high, low] => '0' ≤ high && high ≤ '5' && low.isDigit
      | _ => false
  | _ => false

/-- Whether a plain scalar is a whole number. -/
def isWhole (text : Text) : Bool :=
  match (splitSign text).2 with
  | '0' :: 'b' :: digits =>
      !digits.isEmpty && digits.all fun digit => digit == '0' || digit == '1' || digit == '_'
  | '0' :: 'x' :: digits =>
      !digits.isEmpty && digits.all fun digit => (Json.hexValue? digit).isSome || digit == '_'
  | '0' :: digits => digits.all fun digit => ('0' ≤ digit && digit ≤ '7') || digit == '_'
  | first :: rest =>
      let tail := rest.dropWhile isDigitOrLine
      first.isDigit && (tail.isEmpty || isSexagesimal tail)
  | [] => false

/-- Whether a text is an exponent with its sign. -/
def isExponent : Text → Bool
  | mark :: sign :: digits =>
      (mark == 'e' || mark == 'E') && (sign == '+' || sign == '-') && !digits.isEmpty
        && digits.all Char.isDigit
  | _ => false

/-- Whether a text is the rest of a number after its point. -/
def endsDecimal (text : Text) : Bool :=
  let rest := text.dropWhile isDigitOrLine
  rest.isEmpty || isExponent rest

/-- Whether a plain scalar is a number with a point. -/
def isDecimal (text : Text) : Bool :=
  let unsigned := (splitSign text).2
  match unsigned with
  | '.' :: rest =>
      (spellings "inf".toList).contains rest
        || (unsigned == text && nanWords.contains rest)
        || (unsigned == text && rest.head?.any Char.isDigit && endsDecimal rest)
  | first :: rest =>
      let tail := rest.dropWhile isDigitOrLine
      first.isDigit && match tail with
        | '.' :: fraction => endsDecimal fraction
        | ':' :: _ =>
            match tail.dropWhile (· != '.') with
            | '.' :: fraction =>
                isSexagesimal (tail.takeWhile (· != '.')) && fraction.all isDigitOrLine
            | _ => false
        | _ => false
  | [] => false

/-- What a plain scalar without a tag is read as. -/
def kindOfPlain (text : Text) : Kind :=
  if isTruth text then .truth
  else if isDecimal text then .decimal
  else if isWhole text then .whole
  else if text == ['<', '<'] then .merge
  else if isNothing text then .nothing
  else if isMoment text then .moment
  else if text == ['='] then .default
  else .string

/-! ## Values of scalars -/

/-- A text without its underscores. -/
def withoutLines (text : Text) : Text :=
  text.filter (· != '_')

/-- A whole number in a base; a text that is none is refused, and so is one in base ten that is too
long. No more than the head of a refused text is shown. -/
def wholeIn (base : Nat) (text : Text) : Except Failure Int :=
  match (lengthFault? text).filter fun _ => base == 10, readWhole? base text with
  | some note, _ => .error (.badValue note)
  | none, some number => .ok number
  | none, none =>
      let shown := String.ofList ((Value.quoteText (String.ofList text)).toList.take 200)
      .error (.badValue s!"invalid literal for int() with base {base}: {shown}")

/-- The number that parts in base sixty make, the last one first. -/
def sexagesimal (parts : List Int) : Int :=
  parts.foldr (fun part number => part + 60 * number) 0

/-- The whole number that a scalar is read as. -/
def wholeValue (text : Text) : Except Failure Int := do
  let digits := withoutLines text
  if digits.isEmpty then throw (.foreign "IndexError" "string index out of range")
  let (isNegative, digits) := splitSign digits
  let size ← match digits with
    | [] => throw (.foreign "IndexError" "string index out of range")
    | ['0'] => pure 0
    | '0' :: 'b' :: rest => wholeIn 2 rest
    | '0' :: 'x' :: rest => wholeIn 16 rest
    | '0' :: _ => wholeIn 8 digits
    | _ =>
        if digits.any (· == ':') then
          return signed isNegative
            (sexagesimal (← (Text.splitOn ':' digits).mapM (wholeIn 10)).reverse)
        else wholeIn 10 digits
  return signed isNegative size
where
  /-- A number with a sign. -/
  signed (isNegative : Bool) (size : Int) : Int := if isNegative then -size else size

/-- A floating-point number; a text that is none is refused. -/
def floatOf (text : Text) : Except Failure Float :=
  match readFloat? text with
  | some number => .ok number
  | none => .error (.badValue
      s!"could not convert string to float: {Value.quoteText (String.ofList text)}")

/-- The number that parts in base sixty make, the last one first, added up from the smallest. -/
def sexagesimalFloat (parts : List Float) : Float :=
  (parts.foldl (fun (sum, base) part => (sum + part * base, base * 60.0)) (0.0, 1.0)).1

/-- The floating-point number that a scalar is read as. -/
def decimalValue (text : Text) : Except Failure Float := do
  let word := Text.lower (withoutLines text)
  if word.isEmpty then throw (.foreign "IndexError" "string index out of range")
  let (isNegative, word) := splitSign word
  let size ←
    if word == ".inf".toList then pure (Float.ofScientific 1 false 400)
    else if word == ".nan".toList then pure (0.0 / 0.0)
    else if word.any (· == ':') then
      pure (sexagesimalFloat (← (Text.splitOn ':' word).mapM floatOf).reverse)
    else floatOf word
  return if isNegative then -size else size

/-- The truth value that a scalar is read as. -/
def truthValue (text : Text) : Except Failure Bool :=
  let word := Text.lower text
  match truthWords.lookup word with
  | some value => .ok value
  | none => .error (.foreign "KeyError" (String.ofList word))

/-- The value of a digit in base sixty-four. -/
def base64Digit? (character : Char) : Option Nat :=
  if 'A' ≤ character && character ≤ 'Z' then some (character.toNat - 65)
  else if 'a' ≤ character && character ≤ 'z' then some (character.toNat - 71)
  else if character.isDigit then some (character.toNat + 4)
  else if character == '+' then some 62
  else if character == '/' then some 63
  else none

/-- The bytes that digits in base sixty-four stand for. Other characters do not count; `place` is
the place of the next digit in its group of four, `left` what the digit before has left over, and
`pads` the number of equals signs since the last digit. -/
def base64From (place left pads : Nat) : Text → Option (List UInt8)
  | [] => if place == 0 then some [] else none
  | character :: rest =>
      if character == '=' then
        if 2 ≤ place && 4 ≤ place + pads + 1 then some []
        else base64From place left (if 2 ≤ place then pads + 1 else pads) rest
      else
        match base64Digit? character with
        | none => base64From place left pads rest
        | some digit =>
            let byte (number : Nat) (bytes : List UInt8) : List UInt8 := UInt8.ofNat number :: bytes
            match place with
            | 0 => base64From 1 digit 0 rest
            | 1 => (base64From 2 (digit % 16) 0 rest).map (byte (left * 4 + digit / 16))
            | 2 => (base64From 3 (digit % 4) 0 rest).map (byte (left * 16 + digit / 4))
            | _ => (base64From 0 0 0 rest).map (byte (left * 64 + digit))

/-- The bytes that a scalar is read as. -/
def binaryValue (text : Text) : Except Fault (List UInt8) :=
  if text.any fun character => 0x80 ≤ character.toNat then
    .error (.malformed "failed to convert base64 data into ascii")
  else
    match base64From 0 0 0 text with
    | some bytes => .ok bytes
    | none => .error (.malformed "failed to decode base64 data")

/-- The value of a scalar of a kind. -/
def scalarValue (kind : Kind) (text : Text) : Except Fault Value :=
  let usable (result : Except Failure Value) : Except Fault Value := result.mapError .unusable
  match kind with
  | .string => .ok (.str (String.ofList text))
  | .nothing => .ok .null
  | .truth => usable ((truthValue text).map .bool)
  | .whole => usable ((wholeValue text).map .int)
  | .decimal => usable ((decimalValue text).map .float)
  | .moment =>
      match writtenMoment? text with
      | some written => usable written.value
      | none => usable (.error (.foreign "AttributeError"
          "'NoneType' object has no attribute 'groupdict'"))
  | .binary => (binaryValue text).map .bytes
  | _ => .error (.malformed "could not determine a constructor for the tag")

end DocBinder.Yaml
