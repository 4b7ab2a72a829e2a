import DocBinder.Text.Case
import Mathlib.Data.List.Infix

/-!
# Words in any case

To look for a word in any case is to look for it in the text whose characters are folded to the
letters that they count as. Whether words can overlap in a text is then a question about prefixes of
folded texts, which is decided on the words alone.
-/

namespace DocBinder.Text

/-- What is evaluated for every character of a text. -/
theorem forall_of_all {text : Text} {holds : Char → Prop} [DecidablePred holds]
    (all : text.all (fun character => decide (holds character)) = true) :
    ∀ character ∈ text, holds character := by
  simpa using all

/-- The characters outside ASCII that count as an ASCII letter. -/
def foreignLetters : List Char :=
  ['ı', 'İ', 'ſ', '\u212A']

/-- The character that another one counts as where case is disregarded. -/
def fold (character : Char) : Char :=
  if character = 'ı' ∨ character = 'İ' then 'i'
  else if character = 'ſ' then 's'
  else if character = '\u212A' then 'k'
  else character.toLower

/-- Whether a character is as written in a word that is looked for in any case. -/
def IsFolded (character : Char) : Prop :=
  character.toLower = character ∧ character ∉ foreignLetters

instance (character : Char) : Decidable (IsFolded character) :=
  inferInstanceAs (Decidable (_ ∧ _))

theorem fold_of_not_mem {character : Char} (notForeign : character ∉ foreignLetters) :
    fold character = character.toLower := by
  simp only [foreignLetters, List.mem_cons, List.not_mem_nil, or_false, not_or] at notForeign
  simp [fold, notForeign]

/-- The upper-case form of a letter of a word is no letter outside ASCII. -/
theorem not_mem_of_toLower {letter character : Char} (folded : IsFolded letter)
    (lowers : character.toLower = letter) : character ∉ foreignLetters := by
  intro isForeign
  have stays : ∀ other ∈ foreignLetters, other.toLower = other :=
    forall_of_all (by decide)
  apply folded.2
  rwa [← lowers, stays character isForeign]

theorem sameLetter_iff {letter character : Char} (folded : IsFolded letter) :
    sameLetter letter character = true ↔ fold character = letter := by
  constructor
  · intro same
    simp only [sameLetter, Bool.or_eq_true, Bool.and_eq_true, beq_iff_eq] at same
    rcases same with (((rfl | lowers) | ⟨rfl, isForeign⟩) | ⟨rfl, rfl⟩) | ⟨rfl, rfl⟩
    · rw [fold_of_not_mem folded.2, folded.1]
    · rw [fold_of_not_mem (not_mem_of_toLower folded lowers), lowers]
    · simp [fold, isForeign]
    · decide
    · decide
  · intro folds
    rw [fold] at folds
    simp only [sameLetter, Bool.or_eq_true, Bool.and_eq_true, beq_iff_eq]
    split at folds
    · rename_i isForeign
      exact .inl (.inl (.inr ⟨folds.symm, isForeign⟩))
    · split at folds
      · rename_i isForeign
        exact .inl (.inr ⟨folds.symm, isForeign⟩)
      · split at folds
        · rename_i isForeign
          exact .inr ⟨folds.symm, isForeign⟩
        · exact .inl (.inl (.inl (.inr folds)))

/-- What is found of a word is a text that folds to it. -/
theorem dropWord?_eq_some {word text rest : Text} (folded : ∀ letter ∈ word, IsFolded letter) :
    dropWord? word text = some rest ↔ ∃ spelled, text = spelled ++ rest ∧ spelled.map fold = word := by
  induction word generalizing text with
  | nil =>
      simp only [dropWord?, Option.some.injEq]
      constructor
      · rintro rfl
        exact ⟨[], rfl, rfl⟩
      · rintro ⟨spelled, rfl, isEmpty⟩
        simp [List.map_eq_nil_iff.mp isEmpty]
  | cons letter word step =>
      have further (text : Text) : dropWord? word text = some rest ↔
          ∃ spelled, text = spelled ++ rest ∧ spelled.map fold = word :=
        step fun letter mem => folded letter (List.mem_cons_of_mem _ mem)
      cases text with
      | nil =>
          simp only [dropWord?, reduceCtorEq, false_iff]
          rintro ⟨spelled, split, folds⟩
          rcases List.append_eq_nil_iff.mp split.symm with ⟨rfl, _⟩
          cases folds
      | cons character text =>
          rw [dropWord?]
          split
          · rename_i same
            rw [sameLetter_iff (folded letter List.mem_cons_self)] at same
            rw [further text]
            constructor
            · rintro ⟨spelled, rfl, folds⟩
              exact ⟨character :: spelled, rfl, by simp [same, folds]⟩
            · rintro ⟨spelled, split, folds⟩
              cases spelled with
              | nil => cases folds
              | cons first spelled =>
                  simp only [List.map_cons, List.cons.injEq] at folds
                  simp only [List.cons_append, List.cons.injEq] at split
                  exact ⟨spelled, split.2, folds.2⟩
          · rename_i differs
            rw [sameLetter_iff (folded letter List.mem_cons_self)] at differs
            simp only [reduceCtorEq, false_iff]
            rintro ⟨spelled, split, folds⟩
            cases spelled with
            | nil => cases folds
            | cons first spelled =>
                simp only [List.map_cons, List.cons.injEq] at folds
                simp only [List.cons_append, List.cons.injEq] at split
                exact differs (split.1 ▸ folds.1)

/-- Neither of two texts begins with the other. -/
def Apart (first second : Text) : Prop :=
  ¬ first <+: second ∧ ¬ second <+: first

instance (first second : Text) : Decidable (Apart first second) :=
  inferInstanceAs (Decidable (_ ∧ _))

/-- A text that is apart from a word does not begin with it, whatever is behind. -/
theorem Apart.not_isPrefix {word front : Text} (apart : Apart word front) (back : Text) :
    ¬ word <+: front ++ back := by
  intro begins
  rcases List.prefix_or_prefix_of_prefix begins (List.prefix_append front back) with within | beyond
  · exact apart.1 within
  · exact apart.2 beyond

end DocBinder.Text
