import DocBinder.Value.Written
import Mathlib.Algebra.Group.Nat.Defs
import Mathlib.Data.List.TakeWhile

/-!
# Long numbers

A whole number has to stand in a value as a number to be too long for a text: numerals that are longer
than a text may be are refused before they are read, and doubles are small.
-/

namespace DocBinder

/-! ## Parts of values -/

namespace Value

variable {name : String} {value found item : Value} {items : List Value} {entries : List (Value × Value)}

theorem hasLong_of_lookup (isFound : lookup name entries = some found) (long : found.hasLong = true) :
    entriesHaveLong entries = true := by
  induction entries with
  | nil => cases isFound
  | cons entry rest step =>
      rcases entry with ⟨key, value⟩
      have behind (isFound : lookup name rest = some found) :
          entriesHaveLong ((key, value) :: rest) = true := by
        rw [entriesHaveLong, step isFound, Bool.or_true]
      cases key with
      | str text =>
          rw [lookup] at isFound
          split at isFound
          · cases isFound
            rw [entriesHaveLong, long, Bool.or_true, Bool.true_or]
          · exact behind isFound
      | _ => exact behind isFound

theorem hasLong_of_get? (isFound : value.get? name = some found) (long : found.hasLong = true) :
    value.hasLong = true := by
  cases value with
  | map entries => exact hasLong_of_lookup isFound long
  | _ => cases isFound

theorem hasLong_of_part (long : (value.part name).hasLong = true) : value.hasLong = true := by
  rw [part] at long
  cases isFound : value.get? name with
  | none =>
      rw [isFound] at long
      cases long
  | some found =>
      rw [isFound] at long
      exact hasLong_of_get? isFound long

theorem hasLong_of_mem (mem : item ∈ items) (long : item.hasLong = true) :
    itemsHaveLong items = true := by
  induction items with
  | nil => cases mem
  | cons first rest step =>
      rw [itemsHaveLong, Bool.or_eq_true]
      rcases List.mem_cons.mp mem with rfl | mem
      · exact .inl long
      · exact .inr (step mem)

theorem hasLong_of_entry {entry : Value × Value} (mem : entry ∈ entries)
    (long : entry.1.hasLong = true ∨ entry.2.hasLong = true) : entriesHaveLong entries = true := by
  induction entries with
  | nil => cases mem
  | cons first rest step =>
      rw [entriesHaveLong, Bool.or_eq_true, Bool.or_eq_true]
      rcases List.mem_cons.mp mem with rfl | mem
      · exact .inl long
      · exact .inr (step mem)

theorem not_isLong_of_lt {number : Int} (small : number.natAbs < 10 ^ Decimal.maxDigits) :
    isLong number = false := by
  rw [isLong, decide_eq_false_iff_not, Nat.not_le]
  generalize Decimal.maxDigits = digits at small ⊢
  exact small

theorem not_isLong_of_lt_hundred {number : Int} (small : number.natAbs < 100) :
    isLong number = false := by
  have few : 2 ≤ Decimal.maxDigits := by decide
  have power : 10 ^ 2 ≤ 10 ^ Decimal.maxDigits := Nat.pow_le_pow_right (by decide) few
  exact not_isLong_of_lt (Nat.lt_of_lt_of_le small power)

end Value

/-! ## Numerals -/

namespace Decimal

variable {base start number : Nat} {text : Text}

/-- The digits of a numeral are not counted with the underscores between them. -/
def digitCount (text : Text) : Nat :=
  (text.filter (· != '_')).length

/-- Whether a character can stand in a numeral behind its sign. -/
def isNumeric (base : Nat) (character : Char) : Bool :=
  (digitOf? base character).isSome || character == '_'

theorem digitOf?_lt {digit : Nat} {character : Char} (isDigit : digitOf? base character = some digit) :
    digit < base :=
  of_decide_eq_true (Option.filter_eq_some_iff.mp isDigit).2

theorem digitOf?_underscore (base : Nat) : digitOf? base '_' = none := by
  have noDigit : Text.digitValue? '_' = none := by decide +kernel
  have noLetter : ('_').isAlpha = false := by decide
  simp [digitOf?, noDigit, noLetter]

theorem digitCount_cons {character : Char} (isDigit : (digitOf? base character).isSome = true) :
    digitCount (character :: text) = digitCount text + 1 := by
  have differs : character ≠ '_' := by
    rintro rfl
    rw [digitOf?_underscore] at isDigit
    cases isDigit
  simp [digitCount, differs]

theorem digitCount_underscore : digitCount ('_' :: text) = digitCount text := by
  simp [digitCount]

theorem isNumeric_of_digitsFrom (reads : digitsFrom base start text = some number) :
    text.all (isNumeric base) = true := by
  fun_induction digitsFrom base start text generalizing number with
  | case1 => rfl
  | case2 start last =>
      rcases Option.map_eq_some_iff.mp reads with ⟨digit, isDigit, _⟩
      simp [isNumeric, isDigit]
  | case3 start character rest step =>
      rcases Option.bind_eq_some_iff.mp reads with ⟨digit, isDigit, reads⟩
      simp only [List.all_cons, step digit reads, Bool.and_true]
      simp [isNumeric, isDigit]
  | case4 start character next rest other step =>
      rcases Option.bind_eq_some_iff.mp reads with ⟨digit, isDigit, reads⟩
      rw [List.all_cons, step digit reads, Bool.and_true]
      simp [isNumeric, isDigit]

theorem le_of_digit {digit : Nat} (small : digit < base) (start count : Nat) :
    (start * base + digit + 1) * base ^ count ≤ (start + 1) * base ^ (count + 1) := by
  have next : start * base + digit + 1 ≤ (start + 1) * base := by
    rw [Nat.add_mul]
    omega
  calc (start * base + digit + 1) * base ^ count
      ≤ (start + 1) * base * base ^ count := Nat.mul_le_mul_right _ next
    _ = (start + 1) * base ^ (count + 1) := by rw [Nat.pow_succ', Nat.mul_assoc]

/-- A numeral of some digits is below the power of the base with their number. -/
theorem digitsFrom_lt (reads : digitsFrom base start text = some number) :
    number < (start + 1) * base ^ digitCount text := by
  fun_induction digitsFrom base start text generalizing number with
  | case1 => cases reads
  | case2 start last =>
      rcases Option.map_eq_some_iff.mp reads with ⟨digit, isDigit, rfl⟩
      rw [digitCount_cons (by rw [isDigit]; rfl)]
      have below := le_of_digit (digitOf?_lt isDigit) start (digitCount [])
      simp only [digitCount, List.filter_nil, List.length_nil, Nat.pow_zero, Nat.mul_one] at below ⊢
      exact below
  | case3 start character rest step =>
      rcases Option.bind_eq_some_iff.mp reads with ⟨digit, isDigit, reads⟩
      rw [digitCount_cons (by rw [isDigit]; rfl), digitCount_underscore]
      exact Nat.lt_of_lt_of_le (step digit reads) (le_of_digit (digitOf?_lt isDigit) _ _)
  | case4 start character next rest other step =>
      rcases Option.bind_eq_some_iff.mp reads with ⟨digit, isDigit, reads⟩
      rw [digitCount_cons (by rw [isDigit]; rfl)]
      exact Nat.lt_of_lt_of_le (step digit reads) (le_of_digit (digitOf?_lt isDigit) _ _)

theorem dropBaseMark_ten (text : Text) : dropBaseMark 10 text = text := by
  unfold dropBaseMark
  split
  · rfl
  · rfl

/-- What a numeral in base ten writes has no more digits than a numeral may have. -/
theorem not_isLong_of_readWhole? {number : Int} (isShort : lengthFault? text = none)
    (reads : readWhole? 10 text = some number) : Value.isLong number = false := by
  rcases Option.bind_eq_some_iff.mp reads with ⟨size, isSize, isNumber⟩
  rw [dropBaseMark_ten] at isSize
  have whole : (splitSign (Text.strip text)).2.takeWhile (isNumeric 10) = (splitSign (Text.strip text)).2 :=
    List.takeWhile_eq_self_iff.mpr (List.all_eq_true.mp (isNumeric_of_digitsFrom isSize))
  have few : digitCount (splitSign (Text.strip text)).2 ≤ maxDigits := by
    unfold lengthFault? at isShort
    rw [← whole]
    dsimp only at isShort
    split at isShort
    · assumption
    · cases isShort
  have below : size < 10 ^ maxDigits := by
    have bound := digitsFrom_lt isSize
    rw [Nat.zero_add, Nat.one_mul] at bound
    exact Nat.lt_of_lt_of_le bound (Nat.pow_le_pow_right (by decide) few)
  have isSize : number.natAbs = size := by
    cases isNumber
    split <;> simp
  apply Value.not_isLong_of_lt
  rw [isSize]
  exact below

/-! ## Doubles -/

/-- A double has a mantissa of 53 bits and a small exponent. -/
theorem Binary.bounds_ofFloat {value : Float} {negative : Bool} {mantissa : Nat} {exponent : Int}
    (isFinite : ofFloat value = .finite negative mantissa exponent) :
    mantissa < 2 ^ 53 ∧ exponent ≤ 971 := by
  have fraction : value.toBits.toNat % Nat.pow 2 52 < 2 ^ 52 := Nat.mod_lt _ (by decide)
  have power : value.toBits.toNat / Nat.pow 2 52 % Nat.pow 2 11 < 2 ^ 11 := Nat.mod_lt _ (by decide)
  unfold ofFloat at isFinite
  dsimp only at isFinite
  generalize value.toBits.toNat % Nat.pow 2 52 = rest at fraction isFinite
  generalize value.toBits.toNat / Nat.pow 2 52 % Nat.pow 2 11 = head at power isFinite
  split at isFinite
  · split at isFinite <;> cases isFinite
  · rename_i small
    rw [beq_iff_eq] at small
    split at isFinite
    · cases isFinite
      exact ⟨by omega, by decide⟩
    · cases isFinite
      exact ⟨by change 2 ^ 52 + rest < _; omega, by omega⟩

theorem mul_pow_lt {mantissa few : Nat} (small : mantissa < 2 ^ few) (many : Nat) :
    mantissa * 2 ^ many < 10 ^ (few + many) :=
  calc mantissa * 2 ^ many
      < 2 ^ few * 2 ^ many := Nat.mul_lt_mul_of_pos_right small (Nat.two_pow_pos many)
    _ = 2 ^ (few + many) := (Nat.pow_add 2 few many).symm
    _ ≤ 10 ^ (few + many) := Nat.pow_le_pow_left (by decide) _

/-- The whole part of a double has no more digits than a numeral may have. -/
theorem not_isLong_of_wholePart? {value : Float} {number : Int}
    (cuts : (Binary.ofFloat value).wholePart? = some number) : Value.isLong number = false := by
  apply Value.not_isLong_of_lt
  cases isFinite : Binary.ofFloat value with
  | nan =>
      rw [isFinite] at cuts
      cases cuts
  | infinite negative =>
      rw [isFinite] at cuts
      cases cuts
  | finite negative mantissa exponent =>
      rcases Binary.bounds_ofFloat isFinite with ⟨few, low⟩
      rw [isFinite] at cuts
      have size : number.natAbs ≤ mantissa * 2 ^ exponent.toNat := by
        cases cuts
        rw [apply_ite Int.natAbs, Int.natAbs_neg, Int.natAbs_natCast, ite_self]
        split
        · exact Nat.le_refl _
        · exact (Nat.div_le_self _ _).trans (Nat.le_mul_of_pos_right _ (Nat.two_pow_pos _))
      have short : 53 + exponent.toNat ≤ maxDigits := by
        change 53 + exponent.toNat ≤ 4300
        omega
      calc number.natAbs
          ≤ mantissa * 2 ^ exponent.toNat := size
        _ < 10 ^ (53 + exponent.toNat) := mul_pow_lt few _
        _ ≤ 10 ^ maxDigits := Nat.pow_le_pow_right (by decide) short

end Decimal

end DocBinder
