import DocBinder.Decimal.Numeral
import DocBinder.Failure

/-!
# The text of a value

The text that a value has is not made where a whole number in the value has more digits than a numeral
may have.
-/

namespace DocBinder.Value

/-- Whether a whole number has more digits than a numeral in base ten may have. -/
def isLong (number : Int) : Bool :=
  decide (Nat.pow 10 Decimal.maxDigits ≤ number.natAbs)

/-- What is said of a whole number with too many digits. -/
def tooLong : String :=
  s!"Exceeds the limit ({Decimal.maxDigits} digits) for integer string conversion; "
    ++ "use sys.set_int_max_str_digits() to increase the limit"

mutual

/-- Whether a value holds a whole number with too many digits. -/
def hasLong : Value → Bool
  | .int number => isLong number
  | .list items => itemsHaveLong items
  | .map entries => entriesHaveLong entries
  | .set items => itemsHaveLong items
  | _ => false

/-- Whether some items hold a whole number with too many digits. -/
def itemsHaveLong : List Value → Bool
  | [] => false
  | item :: rest => hasLong item || itemsHaveLong rest

/-- Whether some entries hold a whole number with too many digits. -/
def entriesHaveLong : List (Value × Value) → Bool
  | [] => false
  | (key, value) :: rest => hasLong key || hasLong value || entriesHaveLong rest

end

/-- The text of a value, if it can be made. -/
def written (value : Value) : Except Failure String :=
  if value.hasLong then .error (.badValue tooLong) else .ok value.text

end DocBinder.Value
