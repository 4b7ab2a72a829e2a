import DocBinder.Text.Case

/-!
# Lines in lower case

Lowering a text makes no line feeds: below the ASCII bound this is seen character by character, and above
it no run of capitals leads that far down.
-/

namespace DocBinder.Text

theorem toLower_ne_lineFeed {character : Char} (differs : character ≠ '\n') :
    character.toLower ≠ '\n' := by
  by_cases isCapital : character.val ≥ 'A'.val ∧ character.val ≤ 'Z'.val
  · intro same
    have lowered : character.toLower.val = character.val + ('a'.val - 'A'.val) :=
      congrArg Char.val (dif_pos isCapital)
    rw [same] at lowered
    have low := congrArg UInt32.toNat lowered
    have atLeast := UInt32.le_iff_toNat_le.mp isCapital.1
    have atMost := UInt32.le_iff_toNat_le.mp isCapital.2
    simp [UInt32.toNat_add] at low atLeast atMost
    omega
  · rwa [show character.toLower = character from dif_neg isCapital]

/-- No capital has its lower-case form among the ASCII control characters. -/
theorem lt_of_mem_capitalRuns :
    ∀ run ∈ capitalRuns, (10 : Int) < run.1 + run.2.2.2 := by
  decide +kernel

theorem ofNat_ne_lineFeed {number : Nat} (large : 10 < number) : Char.ofNat number ≠ '\n' := by
  by_cases valid : number.isValidChar
  · rw [show Char.ofNat number = Char.ofNatAux number valid from dif_pos valid]
    intro same
    have small : number = 10 := congrArg Char.toNat same
    omega
  · rw [show Char.ofNat number = '\x00' from dif_neg valid]
    decide

theorem lowerChar_ne_lineFeed {character : Char} (differs : character ≠ '\n') :
    lowerChar character ≠ '\n' := by
  rw [lowerChar]
  split
  · exact toLower_ne_lineFeed differs
  · dsimp only
    split
    · rename_i run found
      have large := lt_of_mem_capitalRuns run (Array.mem_of_find?_eq_some found)
      have inside := Array.find?_some found
      simp only [Bool.and_eq_true, decide_eq_true_eq] at inside
      exact ofNat_ne_lineFeed (by omega)
    · exact differs

theorem not_mem_lowerFrom {text : Text} (oneLine : '\n' ∉ text) (before : Text) :
    '\n' ∉ lowerFrom before text := by
  induction text generalizing before with
  | nil => exact List.not_mem_nil
  | cons character rest step =>
      have differs : character ≠ '\n' := fun same => oneLine (same ▸ List.mem_cons_self)
      have further := step (fun mem => oneLine (List.mem_cons_of_mem _ mem)) (character :: before)
      intro mem
      rw [lowerFrom] at mem
      rcases List.mem_append.mp mem with mem | mem
      · split at mem
        · simp at mem
        · split at mem
          · split at mem <;> simp at mem
          · exact lowerChar_ne_lineFeed differs (List.mem_singleton.mp mem).symm
      · exact further mem

/-- A text without line feeds has none in lower case. -/
theorem not_mem_lower {text : Text} (oneLine : '\n' ∉ text) : '\n' ∉ lower text :=
  not_mem_lowerFrom oneLine []

end DocBinder.Text
