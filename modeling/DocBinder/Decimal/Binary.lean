/-!
# Binary fractions

A finite floating-point number is a whole number of units of a power of two. Everything that has
to be exact about such a number, its shortest decimal form, its order among whole numbers and its
whole part, is computed from that form.
-/

namespace DocBinder.Decimal

/-- What a double holds: no number, an infinity, or `mantissa · 2 ^ exponent` with a sign. -/
inductive Binary where
  | nan
  | infinite (negative : Bool)
  | finite (negative : Bool) (mantissa : Nat) (exponent : Int)
deriving DecidableEq, Repr, Inhabited

namespace Binary

/-- The content of a double. -/
def ofFloat (value : Float) : Binary :=
  let bits := value.toBits.toNat
  let negative := bits / Nat.pow 2 63 == 1
  let exponent : Nat := bits / Nat.pow 2 52 % Nat.pow 2 11
  let fraction : Nat := bits % Nat.pow 2 52
  if exponent == 2047 then if fraction == 0 then .infinite negative else .nan
  else if exponent == 0 then .finite negative fraction (-1074)
  else .finite negative (Nat.pow 2 52 + fraction) ((exponent : Int) - 1075)

/-- The whole part of a finite number, cut toward zero. -/
def wholePart? : Binary → Option Int
  | .finite negative mantissa exponent =>
      let size : Nat :=
        if 0 ≤ exponent then mantissa * Nat.pow 2 exponent.toNat
        else mantissa / Nat.pow 2 (-exponent).toNat
      some (if negative then -(size : Int) else size)
  | _ => none

/-- Whether a number is strictly less than another; nothing is less or greater than what is no
number. -/
def lt (first second : Binary) : Bool :=
  match first, second with
  | .nan, _ => false
  | _, .nan => false
  | .infinite negative, .infinite otherNegative => negative && !otherNegative
  | .infinite negative, _ => negative
  | _, .infinite negative => !negative
  | .finite negative mantissa exponent, .finite otherNegative otherMantissa otherExponent =>
      let low := min exponent otherExponent
      let left := (mantissa * Nat.pow 2 (exponent - low).toNat : Nat)
      let right := (otherMantissa * Nat.pow 2 (otherExponent - low).toNat : Nat)
      (if negative then -(left : Int) else left) < (if otherNegative then -(right : Int) else right)

/-- Whether two numbers are equal; what is no number equals nothing. -/
def eq (first second : Binary) : Bool :=
  match first, second with
  | .nan, _ => false
  | _, .nan => false
  | _, _ => !lt first second && !lt second first

/-- A whole number. -/
def ofInt (value : Int) : Binary :=
  .finite (value < 0) value.natAbs 0

end Binary

/-- The nearest whole number to a quotient, a half going to the even neighbour. -/
def roundHalfEven (numerator denominator : Nat) : Nat :=
  let whole := numerator / denominator
  let rest := numerator % denominator
  if 2 * rest < denominator then whole
  else if 2 * rest > denominator then whole + 1
  else whole + whole % 2

/-- A quotient written with a fixed number of decimal places. -/
def fixedPlaces (numerator denominator places : Nat) : String :=
  let scaled := roundHalfEven (numerator * Nat.pow 10 places) denominator
  if places == 0 then toString scaled
  else
    let fraction := toString (scaled % Nat.pow 10 places)
    toString (scaled / Nat.pow 10 places) ++ "."
      ++ String.ofList (List.replicate (places - fraction.length) '0') ++ fraction

end DocBinder.Decimal
