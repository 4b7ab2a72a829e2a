import DocBinder.Value.Written
import DocBinder.Yaml.Reader
import DocBinder.Yaml.Writer

/-!
# Values that are read again

Whether a value is read again from the text that is written for it can be computed, since values that
are data can be compared.
-/

namespace DocBinder

namespace Value

mutual

/-- Whether two values are the same data. -/
def same : Value → Value → Bool
  | .null, .null => true
  | .int first, .int second => first == second
  | .str first, .str second => first == second
  | .list first, .list second => sameItems first second
  | .map first, .map second => sameEntries first second
  | _, _ => false

/-- Whether the items of two lists are the same data. -/
def sameItems : List Value → List Value → Bool
  | [], [] => true
  | first :: rest, second :: others => same first second && sameItems rest others
  | _, _ => false

/-- Whether the entries of two mappings are the same data in the same order. -/
def sameEntries : List (Value × Value) → List (Value × Value) → Bool
  | [], [] => true
  | (key, value) :: rest, (other, found) :: others =>
      same key other && same value found && sameEntries rest others
  | _, _ => false

end

mutual

theorem eq_of_same : ∀ first second : Value, same first second = true → first = second
  | .null, second, isSame => by
      cases second <;> first | rfl | cases isSame
  | .int first, second, isSame => by
      cases second <;> first | exact congrArg _ (beq_iff_eq.mp isSame) | cases isSame
  | .str first, second, isSame => by
      cases second <;> first | exact congrArg _ (beq_iff_eq.mp isSame) | cases isSame
  | .list first, second, isSame => by
      cases second <;> first | exact congrArg _ (eq_of_sameItems _ _ isSame) | cases isSame
  | .map first, second, isSame => by
      cases second <;> first | exact congrArg _ (eq_of_sameEntries _ _ isSame) | cases isSame
  | .bool _, _, isSame => by cases isSame
  | .float _, _, isSame => by cases isSame
  | .date _, _, isSame => by cases isSame
  | .moment _, _, isSame => by cases isSame
  | .bytes _, _, isSame => by cases isSame
  | .set _, _, isSame => by cases isSame

theorem eq_of_sameItems : ∀ first second : List Value, sameItems first second = true → first = second
  | [], [], _ => rfl
  | [], _ :: _, isSame => by cases isSame
  | _ :: _, [], isSame => by cases isSame
  | first :: rest, second :: others, isSame => by
      rw [sameItems, Bool.and_eq_true] at isSame
      rw [eq_of_same first second isSame.1, eq_of_sameItems rest others isSame.2]

theorem eq_of_sameEntries : ∀ first second : List (Value × Value),
    sameEntries first second = true → first = second
  | [], [], _ => rfl
  | [], _ :: _, isSame => by cases isSame
  | _ :: _, [], isSame => by cases isSame
  | (key, value) :: rest, (other, found) :: others, isSame => by
      rw [sameEntries, Bool.and_eq_true, Bool.and_eq_true] at isSame
      rw [eq_of_same key other isSame.1.1, eq_of_same value found isSame.1.2,
        eq_of_sameEntries rest others isSame.2]

end

end Value

namespace Yaml

/-- A value can be written, and what is written is read as the value again. -/
structure Returns (value : Value) : Prop where
  short : value.hasLong = false
  reads : read (write value) = .ok ⟨value, false⟩

/-- Whether a value that is data is read again. -/
def returns (value : Value) : Bool :=
  !value.hasLong && match read (write value) with
    | .ok content => content.value.same value && !content.isEndless
    | .error _ => false

theorem returns_of {value : Value} (checks : returns value = true) : Returns value := by
  rw [returns, Bool.and_eq_true, Bool.not_eq_true'] at checks
  rcases checks with ⟨short, reads⟩
  refine ⟨short, ?_⟩
  split at reads
  · rename_i content isRead
    rw [Bool.and_eq_true, Bool.not_eq_true'] at reads
    rcases content with ⟨found, isEndless⟩
    cases reads.2
    rw [isRead, Value.eq_of_same found value reads.1]
  · cases reads

end Yaml

end DocBinder
