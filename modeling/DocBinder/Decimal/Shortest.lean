import DocBinder.Decimal.Binary

/-!
# The shortest decimal form

A double is written with the fewest digits that read back as the same double. For a growing number
of digits the two neighbours of the exact value on the decimal grid are tested; the first grid
with a neighbour inside the interval of values that round to the double wins, and of two such
neighbours the nearer one.
-/

namespace DocBinder.Decimal

/-- The interval of values that round to `mantissa · 2 ^ exponent`, in units of a common
denominator: the value, the two ends, the denominator, and whether the ends belong to it. -/
structure Interval where
  value : Nat
  low : Nat
  high : Nat
  denominator : Nat
  closed : Bool
deriving Repr

/-- The interval of a positive double. The gap below a power of two is half as wide. -/
def Interval.ofBinary (mantissa : Nat) (exponent : Int) : Interval :=
  let narrow := mantissa == Nat.pow 2 52 && exponent > -1074
  let scale := exponent - 2
  let up := Nat.pow 2 scale.toNat
  { value := 4 * mantissa * up
    low := (4 * mantissa - if narrow then 1 else 2) * up
    high := (4 * mantissa + 2) * up
    denominator := Nat.pow 2 (-scale).toNat
    closed := mantissa % 2 == 0 }

namespace Interval

/-- Whether the decimal `digits · 10 ^ power` lies in the interval. -/
def holds (interval : Interval) (digits : Nat) (power : Int) : Bool :=
  let decimal := digits * Nat.pow 10 power.toNat * interval.denominator
  let scale := Nat.pow 10 (-power).toNat
  if interval.closed then interval.low * scale ≤ decimal && decimal ≤ interval.high * scale
  else interval.low * scale < decimal && decimal < interval.high * scale

/-- The neighbour of the value on the grid of multiples of `10 ^ power` that lies in the interval
and is nearest to the value. -/
def nearest? (interval : Interval) (power : Int) : Option Nat :=
  let numerator := interval.value * Nat.pow 10 (-power).toNat
  let denominator := interval.denominator * Nat.pow 10 power.toNat
  let below := numerator / denominator
  let rest := numerator % denominator
  let belowFits := interval.holds below power
  let aboveFits := interval.holds (below + 1) power
  if belowFits && aboveFits then
    some (if 2 * rest < denominator || (2 * rest == denominator && below % 2 == 0) then below
      else below + 1)
  else if belowFits then some below
  else if aboveFits then some (below + 1)
  else none

end Interval

/-- The decimal exponent of a positive quotient: the power of ten of its first digit. -/
def magnitude (numerator denominator : Nat) : Int :=
  let guess : Int := (toString numerator).length - (toString denominator).length
  if numerator * Nat.pow 10 (-guess).toNat ≥ denominator * Nat.pow 10 guess.toNat then guess
  else guess - 1

/-- The digits of a number without zeros at the end, and the power of ten of the last digit. -/
def trimZeros (digits : Nat) (power : Int) : Nat → Nat × Int
  | 0 => (digits, power)
  | fuel + 1 =>
      if digits != 0 && digits % 10 == 0 then trimZeros (digits / 10) (power + 1) fuel
      else (digits, power)

/-- The shortest decimal `digits · 10 ^ power` that reads back as a positive double. -/
def shortest (mantissa : Nat) (exponent : Int) : Nat × Int :=
  let interval := Interval.ofBinary mantissa exponent
  let top := magnitude interval.value interval.denominator
  let tries := (List.range 18).filterMap fun (further : Nat) =>
    let power := top - (further : Int)
    (interval.nearest? power).map fun digits => trimZeros digits power 20
  tries.headD (0, 0)

/-- The text of a double: positional from `1e-4` up to `1e16`, always with a decimal point there,
and with an exponent of at least two digits beyond. -/
def floatText (value : Float) : String :=
  match Binary.ofFloat value with
  | .nan => "nan"
  | .infinite negative => if negative then "-inf" else "inf"
  | .finite negative mantissa exponent =>
      let sign := if negative then "-" else ""
      if mantissa == 0 then sign ++ "0.0"
      else
        let (number, power) := shortest mantissa exponent
        let digits := (toString number).toList
        let point := (digits.length : Int) + power
        let zeros (count : Int) : List Char := List.replicate count.toNat '0'
        let body :=
          if -4 < point && point ≤ 16 then
            if point ≤ 0 then "0.".toList ++ zeros (-point) ++ digits
            else if point < digits.length then
              digits.take point.toNat ++ '.' :: digits.drop point.toNat
            else digits ++ zeros power ++ ".0".toList
          else
            let first := digits.take 1
            let rest := digits.drop 1
            let shown := point - 1
            let size := toString shown.natAbs
            first ++ (if rest.isEmpty then [] else '.' :: rest)
              ++ ['e', if shown < 0 then '-' else '+']
              ++ List.replicate (2 - size.length) '0' ++ size.toList
        sign ++ String.ofList body

end DocBinder.Decimal
