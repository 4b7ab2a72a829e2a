import DocBinder.Json.Reader
import DocBinder.Text.Case
import DocBinder.Text.Digit

/-!
# Numerals

Reading a number that someone wrote as a text: with blanks around it, a sign, digits of any script
and single underscores between digits.
-/

namespace DocBinder.Decimal

open Text

/-- A sign and the text after it. -/
def splitSign : Text → Bool × Text
  | '-' :: rest => (true, rest)
  | '+' :: rest => (false, rest)
  | text => (false, text)

/-- The value of a digit, which may be a letter in bases above ten. -/
def digitOf? (base : Nat) (character : Char) : Option Nat :=
  let value := (digitValue? character).or <|
    if character.isAlpha then some (character.toLower.toNat - 'a'.toNat + 10) else none
  value.filter (· < base)

/-- The number of digits with single underscores between them. -/
def digitsFrom (base : Nat) (number : Nat) : Text → Option Nat
  | [] => none
  | [last] => (digitOf? base last).map fun digit => number * base + digit
  | character :: '_' :: rest => do
      digitsFrom base (number * base + (← digitOf? base character)) rest
  | character :: next :: rest => do
      digitsFrom base (number * base + (← digitOf? base character)) (next :: rest)
termination_by text => text.length

/-- The letter that marks a base. -/
def baseMark? : Nat → Option Char
  | 2 => some 'b'
  | 8 => some 'o'
  | 16 => some 'x'
  | _ => none

/-- The digits after the mark of a base, if it stands before them. -/
def dropBaseMark (base : Nat) : Text → Text
  | '0' :: mark :: rest =>
      if baseMark? base == some mark.toLower then
        match rest with
        | '_' :: rest => rest
        | rest => rest
      else '0' :: mark :: rest
  | text => text

/-- The whole number that a text writes in a base. -/
def readWhole? (base : Nat) (text : Text) : Option Int := do
  let (isNegative, digits) := splitSign (strip text)
  let size ← digitsFrom base 0 (dropBaseMark base digits)
  return if isNegative then -(size : Int) else size

/-- The most digits that a numeral in base ten may have. -/
def maxDigits : Nat := 4300

/-- What is said of a numeral in base ten that has too many digits. -/
def lengthFault? (text : Text) : Option String :=
  let digits := (splitSign (strip text)).2.takeWhile fun character =>
    (digitOf? 10 character).isSome || character == '_'
  let count := (digits.filter (· != '_')).length
  if count ≤ maxDigits then none
  else some <| s!"Exceeds the limit ({maxDigits} digits) for integer string conversion: "
    ++ s!"value has {count} digits; use sys.set_int_max_str_digits() to increase the limit"

/-- The digits of any script as ASCII digits. -/
def asciiDigits (text : Text) : Text :=
  text.map fun character => match digitValue? character with
    | some digit => Char.ofNat ('0'.toNat + digit)
    | none => character

/-- The exponent of a numeral: none written is zero. -/
def exponent? : Text → Option Int
  | [] => some 0
  | mark :: rest =>
      let (isNegative, digits) := splitSign rest
      if (mark == 'e' || mark == 'E') && !digits.isEmpty && digits.all Char.isDigit then
        let size : Int := Json.decimalNumber digits
        some (if isNegative then -size else size)
      else none

/-- The double nearest to the decimal number that a text without a sign writes. -/
def readDecimal? (isNegative : Bool) (text : Text) : Option Float := do
  let whole := text.takeWhile Char.isDigit
  let rest := text.drop whole.length
  let (fraction, rest) := match rest with
    | '.' :: rest => (rest.takeWhile Char.isDigit, rest.dropWhile Char.isDigit)
    | rest => ([], rest)
  if whole.isEmpty && fraction.isEmpty then none
  else
    let power ← exponent? rest
    return Json.doubleOf isNegative (Json.decimalNumber (whole ++ fraction))
      (power - fraction.length)

/-- The floating-point number that a text writes. -/
def readFloat? (text : Text) : Option Float :=
  let (isNegative, unsigned) := splitSign (strip text)
  let word := lower unsigned
  let infinity : Float := Float.ofScientific 1 false 400
  if word == "inf".toList || word == "infinity".toList then
    some (if isNegative then -infinity else infinity)
  else if word == "nan".toList then some (0.0 / 0.0)
  else readDecimal? isNegative (asciiDigits unsigned)

end DocBinder.Decimal
