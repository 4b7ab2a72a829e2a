import DocBinder.Json.Reader
import DocBinder.Value.Literal
import DocBinder.Yaml.Fault

/-!
# Days and moments

A day is written as year, month and day. A moment has a time of day after it, with a fraction of a
second and a distance from universal time where they are known.
-/

namespace DocBinder.Yaml

/-- A time of day as it is written. -/
structure WrittenTime where
  hour : Nat
  minute : Nat
  second : Nat
  fraction : Text
  zone : Option Int
deriving DecidableEq, Repr, Inhabited

/-- A day or moment as it is written. The day of a plain one has two digits for month and day. -/
structure WrittenMoment where
  date : Date
  isPadded : Bool
  time : Option WrittenTime
deriving DecidableEq, Repr, Inhabited

/-- A number of at least `low` and at most `high` digits, and the text after it. -/
def digitsBetween (low high : Nat) (text : Text) : Option (Nat × Text) :=
  let digits := (text.take high).takeWhile Char.isDigit
  if digits.length < low then none
  else some (Json.decimalNumber digits, text.drop digits.length)

/-- The text after a character. -/
def after? (character : Char) : Text → Option Text
  | first :: rest => if first == character then some rest else none
  | [] => none

/-- The text after the mark between a day and its time. -/
def dropTimeMark? : Text → Option Text
  | 'T' :: rest => some rest
  | 't' :: rest => some rest
  | text =>
      let rest := text.dropWhile fun character => character == ' ' || character == '\t'
      if rest.length < text.length then some rest else none

/-- The fraction of a second, and the text after it. -/
def fractionAt : Text → Text × Text
  | '.' :: rest => (rest.takeWhile Char.isDigit, rest.dropWhile Char.isDigit)
  | text => ([], text)

/-- The distance from universal time in minutes, where it is written; nothing follows it. -/
def zoneAt (text : Text) : Option (Option Int) :=
  match text.dropWhile fun character => character == ' ' || character == '\t' with
  | [] => if text.isEmpty then some none else none
  | ['Z'] => some (some 0)
  | sign :: rest => do
      if sign != '+' && sign != '-' then none
      let (hours, rest) ← digitsBetween 1 2 rest
      let minutes ← match rest with
        | [] => some 0
        | rest => do
            let (minutes, rest) ← digitsBetween 2 2 (← after? ':' rest)
            if rest.isEmpty then some minutes else none
      let size : Int := hours * 60 + minutes
      return some (if sign == '-' then -size else size)

/-- A time of day, which ends the text. -/
def writtenTime? (text : Text) : Option WrittenTime := do
  let (hour, rest) ← digitsBetween 1 2 text
  let (minute, rest) ← digitsBetween 2 2 (← after? ':' rest)
  let (second, rest) ← digitsBetween 2 2 (← after? ':' rest)
  let (fraction, rest) := fractionAt rest
  return ⟨hour, minute, second, fraction, ← zoneAt rest⟩

/-- A day or moment, which is all of a text. -/
def writtenMoment? (text : Text) : Option WrittenMoment := do
  let (year, rest) ← digitsBetween 4 4 text
  let monthText ← after? '-' rest
  let (month, rest) ← digitsBetween 1 2 monthText
  let dayText ← after? '-' rest
  let (day, rest) ← digitsBetween 1 2 dayText
  let isPadded := monthText.length == rest.length + 5
  match rest with
  | [] => return ⟨⟨year, month, day⟩, isPadded, none⟩
  | rest => return ⟨⟨year, month, day⟩, isPadded, some (← writtenTime? (← dropTimeMark? rest))⟩

/-- Whether a plain scalar is a day or a moment. -/
def isMoment (text : Text) : Bool :=
  match writtenMoment? text with
  | some written => written.time.isSome || written.isPadded
  | none => false

/-- The number of days of a month. -/
def daysOf (year month : Nat) : Nat :=
  if month == 2 then
    if year % 4 == 0 && (year % 100 != 0 || year % 400 == 0) then 29 else 28
  else if month == 4 || month == 6 || month == 9 || month == 11 then 30
  else 31

/-- A day that the calendar has. -/
def checkDate (date : Date) : Except Failure Date :=
  if date.year == 0 then .error (.badValue "year 0 is out of range")
  else if date.month < 1 || 12 < date.month then .error (.badValue "month must be in 1..12")
  else if date.day < 1 || daysOf date.year date.month < date.day then
    .error (.badValue "day is out of range for month")
  else .ok date

/-- A distance from universal time that is less than a day. -/
def checkZone (minutes : Int) : Except Failure Int :=
  if minutes.natAbs < 1440 then .ok minutes
  else
    let length := Moment.distanceLiteral minutes
    .error (.badValue ("offset must be a timedelta strictly between -timedelta(hours=24) and "
      ++ s!"timedelta(hours=24), not {length}."))

/-- The millionths of a second that a fraction counts; further digits do not count. -/
def microseconds (fraction : Text) : Nat :=
  let digits := fraction.take 6
  Json.decimalNumber digits * Nat.pow 10 (6 - digits.length)

/-- The value of a written day or moment. -/
def WrittenMoment.value (written : WrittenMoment) : Except Failure Value := do
  match written.time with
  | none => return .date (← checkDate written.date)
  | some time =>
      let zone ← time.zone.mapM checkZone
      let date ← checkDate written.date
      if 24 ≤ time.hour then throw (.badValue "hour must be in 0..23")
      if 60 ≤ time.minute then throw (.badValue "minute must be in 0..59")
      if 60 ≤ time.second then throw (.badValue "second must be in 0..59")
      return .moment ⟨date, time.hour, time.minute, time.second, microseconds time.fraction, zone⟩

end DocBinder.Yaml
