import Mathlib.Data.List.Sort

/-!
# Sorting by a number

Sorting by a number is stable: items of the same number keep their order. So where an item goes is
decided by the numbers alone, and neither leaving items out nor putting something beside them
changes the order of the rest.
-/

namespace DocBinder

section Order

variable {α : Type} (key : α → Nat)

theorem key_trans (first second third : α) : decide (key first ≤ key second) →
    decide (key second ≤ key third) → decide (key first ≤ key third) := by
  simp only [decide_eq_true_eq]
  omega

theorem key_total (first second : α) :
    decide (key first ≤ key second) || decide (key second ≤ key first) := by
  simp only [Bool.or_eq_true, decide_eq_true_eq]
  omega

theorem pairwise_sort (items : List α) :
    (items.mergeSort fun first second => key first ≤ key second).Pairwise
      fun first second => key first ≤ key second := by
  apply (List.pairwise_mergeSort (key_trans key) (key_total key) items).imp
  intro first second order
  exact of_decide_eq_true order

/-- Sorting puts an item in front of those that it may precede, and behind all others. -/
theorem exists_sort_cons (item : α) (items : List α) :
    ∃ early late,
      ((item :: items).mergeSort fun first second => key first ≤ key second) =
        early ++ item :: late ∧
      (items.mergeSort fun first second => key first ≤ key second) = early ++ late ∧
      (∀ other ∈ early, key other < key item) ∧ ∀ other ∈ late, key item ≤ key other := by
  rcases List.mergeSort_cons (key_trans key) (key_total key) item items with
    ⟨early, late, whole, rest, before⟩
  have sorted := pairwise_sort key (item :: items)
  rw [whole, List.pairwise_append, List.pairwise_cons] at sorted
  refine ⟨early, late, whole, rest, ?_, sorted.2.1.1⟩
  intro other mem
  simpa using before other mem

/-- The two parts of a list can be told apart by a number. -/
theorem filter_append_of_key {early late : List α} {bound : Nat}
    (below : ∀ item ∈ early, key item < bound) (above : ∀ item ∈ late, bound ≤ key item) :
    (early ++ late).filter (fun item => key item < bound) = early ∧
      (early ++ late).filter (fun item => bound ≤ key item) = late := by
  have keepsEarly : early.filter (fun item => key item < bound) = early :=
    List.filter_eq_self.mpr fun item mem => by simpa using below item mem
  have dropsLate : late.filter (fun item => key item < bound) = [] :=
    List.filter_eq_nil_iff.mpr fun item mem => by simpa using above item mem
  have dropsEarly : early.filter (fun item => bound ≤ key item) = [] :=
    List.filter_eq_nil_iff.mpr fun item mem => by simpa using below item mem
  have keepsLate : late.filter (fun item => bound ≤ key item) = late :=
    List.filter_eq_self.mpr fun item mem => by simpa using above item mem
  constructor
  · rw [List.filter_append, keepsEarly, dropsLate, List.append_nil]
  · rw [List.filter_append, dropsEarly, keepsLate, List.nil_append]

/-- Sorting keeps the order of what is left when items are left out. -/
theorem sort_sublist {kept items : List α} (some : kept.Sublist items) :
    (kept.mergeSort fun first second => key first ≤ key second).Sublist
      (items.mergeSort fun first second => key first ≤ key second) := by
  induction some with
  | slnil => exact List.Sublist.refl _
  | @cons kept items item _ step =>
      rcases exists_sort_cons key item items with ⟨early, late, whole, rest, _, _⟩
      rw [rest] at step
      rw [whole]
      exact step.trans ((List.sublist_cons_self item late).append_left early)
  | @cons_cons kept items item _ step =>
      rcases exists_sort_cons key item items with ⟨early, late, whole, rest, below, above⟩
      rcases exists_sort_cons key item kept with
        ⟨keptEarly, keptLate, keptWhole, keptRest, keptBelow, keptAbove⟩
      rw [rest, keptRest] at step
      rw [whole, keptWhole]
      have split := filter_append_of_key key below above
      have keptSplit := filter_append_of_key key keptBelow keptAbove
      apply List.Sublist.append
      · rw [← keptSplit.1, ← split.1]
        exact step.filter _
      · apply List.Sublist.cons_cons
        rw [← keptSplit.2, ← split.2]
        exact step.filter _

/-- What stands beside the items of a sorted list can be put beside them before they are sorted. -/
theorem exists_sort_map {β : Type} {image : β → α} {sorted : List β} {items : List α}
    (sorts : sorted.map image = items.mergeSort fun first second => key first ≤ key second) :
    ∃ given : List β, given.map image = items ∧
      (given.mergeSort fun first second => key (image first) ≤ key (image second)) = sorted := by
  induction items generalizing sorted with
  | nil =>
      refine ⟨[], rfl, ?_⟩
      simpa using sorts.symm
  | cons item items step =>
      rcases exists_sort_cons key item items with ⟨early, late, whole, rest, below, above⟩
      rw [whole, List.map_eq_append_iff] at sorts
      rcases sorts with ⟨first, second, rfl, isEarly, split⟩
      rcases List.map_eq_cons_iff.mp split with ⟨entry, others, rfl, isItem, isLate⟩
      have sortsRest : (first ++ others).map image =
          items.mergeSort fun first second => key first ≤ key second := by
        rw [List.map_append, isEarly, isLate, rest]
      rcases step sortsRest with ⟨given, isGiven, sortsGiven⟩
      refine ⟨entry :: given, by rw [List.map_cons, isItem, isGiven], ?_⟩
      -- Where the entry goes among the others is decided by its number.
      rcases exists_sort_cons (fun other => key (image other)) entry given with
        ⟨front, back, wholeHere, restHere, belowHere, aboveHere⟩
      have belowOwn : ∀ other ∈ first, key (image other) < key (image entry) := by
        intro other mem
        rw [isItem]
        exact below _ (isEarly ▸ List.mem_map_of_mem mem)
      have aboveOwn : ∀ other ∈ others, key (image entry) ≤ key (image other) := by
        intro other mem
        rw [isItem]
        exact above _ (isLate ▸ List.mem_map_of_mem mem)
      have splitHere := filter_append_of_key _ belowHere aboveHere
      have own := filter_append_of_key (fun other => key (image other)) belowOwn aboveOwn
      rw [sortsGiven] at restHere
      rw [← restHere] at splitHere
      rw [wholeHere, ← splitHere.1, ← splitHere.2, own.1, own.2]

end Order

end DocBinder
