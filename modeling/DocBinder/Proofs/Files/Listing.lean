import DocBinder.Files.Tree
import Mathlib.Data.List.Nodup

/-!
# The order in which files are listed

A tree of files is written down as a list, and the order of the list is the order in which the names
in a directory are listed. All else that can be seen of a tree is the same for every order: what
stands at a place, where a path leads, and what a file holds.
-/

namespace DocBinder

/-- Entries with different keys are found by their keys. -/
theorem lookup_eq_some_iff {κ ν : Type} [BEq κ] [LawfulBEq κ] {entries : List (κ × ν)}
    (once : (entries.map (·.1)).Nodup) {key : κ} {value : ν} :
    entries.lookup key = some value ↔ (key, value) ∈ entries := by
  induction entries with
  | nil => simp
  | cons entry rest step =>
      rcases entry with ⟨first, found⟩
      rw [List.map_cons, List.nodup_cons] at once
      rw [List.lookup_cons, List.mem_cons, ← step once.2]
      by_cases same : key = first
      · subst same
        have absent : rest.lookup key ≠ some value := fun further =>
          once.1 (List.mem_map.mpr ⟨(key, value), (step once.2).mp further, rfl⟩)
        simp [absent, eq_comm]
      · simp [beq_eq_false_iff_ne.mpr same, same]

namespace FileTree

namespace Relists

variable {other files : FileTree}

end Relists

end FileTree

end DocBinder
