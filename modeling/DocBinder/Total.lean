/-!
# Totals

The sum of a list of numbers, by the plain recursion that widths and counts are reasoned about with.
-/

namespace DocBinder

/-- The sum of numbers. -/
def total : List Nat → Nat
  | [] => 0
  | number :: rest => number + total rest

/-- There is nothing to sum in an empty list. -/
@[simp] theorem total_nil : total [] = 0 :=
  rfl

/-- The first number counts beside the sum of the others. -/
@[simp] theorem total_cons (number : Nat) (rest : List Nat) :
    total (number :: rest) = number + total rest :=
  rfl

/-- The numbers of two lists are summed list by list. -/
@[simp] theorem total_append (first second : List Nat) :
    total (first ++ second) = total first + total second := by
  induction first with
  | nil => simp
  | cons number rest step => simp only [List.cons_append, total_cons, step, Nat.add_assoc]

end DocBinder
