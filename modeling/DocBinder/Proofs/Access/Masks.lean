import DocBinder.Access.Redact
import DocBinder.Proofs.Text.Words

/-!
# Masking secrets

A pass that masks the secrets of a kind keeps every character at which it finds none, and puts a mask
in the place of the others. What a kind finds begins with one of a few words, and so do its masks;
neither begins with a blank, a quotation mark or a sign between a name and its value. Therefore such
characters stand in the masked text where they stood before, and a text without words of the kind is
passed through unchanged.
-/

namespace DocBinder.Access

open Text (fold Apart isBlank)

/-! ## Where a kind is found -/

/-- What a kind finds at the head of a text is the mask that it would put there. -/
def Settled (kind : SecretKind) (before : Option Char) (text : Text) : Prop :=
  ∀ mask after, kind before text = some (mask, after) → text = mask ++ after

/-- Wherever a kind of secret is found in a text, its mask stands. -/
def Clean (kind : SecretKind) : Option Char → Text → Prop
  | _, [] => True
  | before, character :: rest =>
      Settled kind before (character :: rest) ∧ Clean kind (some character) rest

theorem getLast?_cons_or {α : Type} (first : α) (items : List α) (default : Option α) :
    (first :: items).getLast?.or default = items.getLast?.or (some first) := by
  rw [List.getLast?_cons]
  cases items.getLast? <;> rfl

theorem Clean.of_append {kind : SecretKind} {before : Option Char} (front : Text) {rest : Text}
    (clean : Clean kind before (front ++ rest)) : Clean kind (front.getLast?.or before) rest := by
  induction front generalizing before with
  | nil => exact clean
  | cons character front step =>
      rw [getLast?_cons_or]
      exact step clean.2

theorem Clean.append {kind : SecretKind} {before : Option Char} {front rest : Text}
    (settled : ∀ earlier later, front = earlier ++ later → later ≠ [] →
      Settled kind (earlier.getLast?.or before) (later ++ rest))
    (clean : Clean kind (front.getLast?.or before) rest) : Clean kind before (front ++ rest) := by
  induction front generalizing before with
  | nil => exact clean
  | cons character front step =>
      refine ⟨settled [] _ rfl (List.cons_ne_nil _ _), step ?_ ?_⟩
      · intro earlier later split shows
        have here := settled (character :: earlier) later (by simp [split]) shows
        rwa [getLast?_cons_or] at here
      · rwa [getLast?_cons_or] at clean

/-! ## What kinds and masks begin with -/

/-- Whether a character can begin a secret or a mask. -/
def opensMask (character : Char) : Bool :=
  isSecretChar character && character != ':' && character != '='

theorem toLower_of_isBlank {character : Char} (blank : isBlank character = true) :
    character.toLower = character := by
  have notCapital : ¬ (character.val ≥ 'A'.val ∧ character.val ≤ 'Z'.val) := by
    rintro ⟨atLeast, atMost⟩
    have low : 65 ≤ character.toNat := UInt32.le_iff_toNat_le.mp atLeast
    have high : character.toNat ≤ 90 := UInt32.le_iff_toNat_le.mp atMost
    simp only [isBlank, Bool.or_eq_true, Bool.and_eq_true, decide_eq_true_eq, beq_iff_eq] at blank
    omega
  exact dif_neg notCapital

theorem fold_of_isBlank {character : Char} (blank : isBlank character = true) :
    fold character = character := by
  have notForeign : character ∉ Text.foreignLetters := by
    intro mem
    have none : ∀ other ∈ Text.foreignLetters, isBlank other = false :=
      Text.forall_of_all (by decide)
    rw [none character mem] at blank
    cases blank
  rw [Text.fold_of_not_mem notForeign, toLower_of_isBlank blank]

/-- Only characters that can begin a mask are changed by disregarding case. -/
theorem fold_of_not_opensMask {character : Char} (closed : opensMask character = false) :
    fold character = character := by
  simp only [opensMask, isSecretChar, isQuote, Bool.and_eq_false_iff, Bool.not_eq_false',
    Bool.or_eq_true, beq_iff_eq, bne_eq_false_iff_eq] at closed
  rcases closed with ((((((rfl | rfl) | blank) | rfl) | rfl) | rfl) | rfl) | rfl
  case inl.inl.inl.inl.inl.inr => exact fold_of_isBlank blank
  all_goals decide

theorem opensMask_of_fold {character : Char} (opens : opensMask (fold character) = true) :
    opensMask character = true := by
  by_contra closed
  rw [Bool.not_eq_true] at closed
  rw [fold_of_not_opensMask closed, closed] at opens
  cases opens

theorem not_opensMask_of_isBlank {character : Char} (blank : isBlank character = true) :
    opensMask character = false := by
  simp [opensMask, isSecretChar, blank]

/-- What a kind of secret begins with, in any case, and what its masks are. -/
structure Shape (kind : SecretKind) (words forms : List Text) : Prop where
  begins : ∀ {before text mask after}, kind before text = some (mask, after) →
    ∃ word ∈ words, word <+: text.map fold
  cuts : ∀ {before text mask after}, kind before text = some (mask, after) →
    ∃ secret, secret ≠ [] ∧ text = secret ++ after
  masks : ∀ {before text mask after}, kind before text = some (mask, after) →
    mask.map fold ∈ forms
  opens : ∀ text ∈ words ++ forms, text.head?.any opensMask = true

namespace Shape

variable {kind : SecretKind} {words forms : List Text} (shape : Shape kind words forms)
  {before : Option Char} {text mask after : Text}

include shape

theorem exists_cons_of_isPrefix {front : Text} (mem : front ∈ words ++ forms)
    (begins : front <+: text.map fold) :
    ∃ character rest, text = character :: rest ∧ opensMask character = true := by
  have opens := shape.opens front mem
  rcases begins with ⟨behind, split⟩
  cases front with
  | nil => cases opens
  | cons letter front =>
      cases text with
      | nil => cases split
      | cons character rest =>
          simp only [List.cons_append, List.map_cons, List.cons.injEq] at split
          rw [List.head?_cons, Option.any_some, split.1] at opens
          exact ⟨character, rest, rfl, opensMask_of_fold opens⟩

theorem exists_cons (found : kind before text = some (mask, after)) :
    ∃ character rest, text = character :: rest ∧ opensMask character = true := by
  rcases shape.begins found with ⟨word, mem, begins⟩
  exact shape.exists_cons_of_isPrefix (List.mem_append_left forms mem) begins

theorem exists_cons_mask (found : kind before text = some (mask, after)) :
    ∃ character rest, mask = character :: rest ∧ opensMask character = true :=
  shape.exists_cons_of_isPrefix (List.mem_append_right words (shape.masks found))
    (List.prefix_refl _)

theorem free_of_not_opensMask {character : Char} (closed : opensMask character = false) (rest : Text) :
    kind before (character :: rest) = none := by
  rw [Option.eq_none_iff_forall_ne_some]
  rintro ⟨mask, after⟩ found
  rcases shape.exists_cons found with ⟨first, others, same, opens⟩
  cases same
  rw [closed] at opens
  cases opens

theorem free_of_apart (apart : ∀ word ∈ words, Apart word (text.map fold)) (rest : Text) :
    kind before (text ++ rest) = none := by
  rw [Option.eq_none_iff_forall_ne_some]
  rintro ⟨mask, after⟩ found
  rcases shape.begins found with ⟨word, mem, begins⟩
  rw [List.map_append] at begins
  exact (apart word mem).not_isPrefix _ begins

end Shape

/-! ## What a pass does -/

/-- A pass over a text that masks the secrets of a kind. -/
inductive Masks (kind : SecretKind) : Option Char → Text → Text → Prop where
  | ends {before : Option Char} : Masks kind before [] []
  | keeps {before : Option Char} {character : Char} {rest out : Text}
      (free : kind before (character :: rest) = none) (further : Masks kind (some character) rest out) :
      Masks kind before (character :: rest) (character :: out)
  | hides {before : Option Char} {text secret after mask rest out : Text}
      (found : kind before text = some (mask, after)) (split : text = secret ++ after)
      (nonempty : secret ≠ []) (further : Masks kind secret.getLast? after rest)
      (shows : out = mask ++ rest) : Masks kind before text out

theorem maskFrom_append (kind : SecretKind) (before : Option Char) (secret after : Text) :
    maskFrom kind before secret.length (secret ++ after) =
      maskFrom kind (secret.getLast?.or before) 0 after := by
  induction secret generalizing before with
  | nil => rfl
  | cons character secret step =>
      rw [getLast?_cons_or]
      exact step (some character)

variable {kind : SecretKind} {words forms : List Text}

theorem masks_maskFrom (shape : Shape kind words forms) (before : Option Char) (text : Text) :
    Masks kind before text (maskFrom kind before 0 text) := by
  induction size : text.length using Nat.strong_induction_on generalizing before text with
  | _ size step =>
      subst size
      cases text with
      | nil => exact .ends
      | cons character rest =>
          rw [maskFrom]
          split
          · rename_i mask after found
            rcases shape.cuts found with ⟨secret, nonempty, split⟩
            cases secret with
            | nil => exact absurd rfl nonempty
            | cons first secret =>
                rw [List.cons_append, List.cons.injEq] at split
                rcases split with ⟨rfl, rfl⟩
                refine .hides found rfl nonempty (step _ ?_ _ after rfl) ?_
                · simp only [List.length_cons, List.length_append]
                  omega
                · rw [List.length_append, Nat.add_sub_cancel, maskFrom_append,
                    ← getLast?_cons_or character secret none, Option.or_none]
          · rename_i free
            exact .keeps free (step _ (by simp) _ rest rfl)

/-- A pass over a text in which masks stand wherever its kind is found changes nothing. -/
theorem Masks.eq_of_clean {before : Option Char} {text out : Text} (masks : Masks kind before text out)
    (clean : Clean kind before text) : out = text := by
  induction masks with
  | ends => rfl
  | keeps free further step => rw [step clean.2]
  | hides found split nonempty further shows step =>
      rename_i before text secret after mask rest out
      have settled : text = mask ++ after := by
        cases text with
        | nil =>
            rcases List.append_eq_nil_iff.mp split.symm with ⟨isEmpty, _⟩
            exact absurd isEmpty nonempty
        | cons character text => exact clean.1 mask after found
      have behind := Clean.of_append secret (split ▸ clean)
      have last : secret.getLast?.or before = secret.getLast? := by
        rw [List.getLast?_eq_some_getLast nonempty]
        rfl
      rw [last] at behind
      rw [shows, step behind, settled]

namespace Masks

variable {before : Option Char} {text out : Text} {character : Char}

theorem nil_iff (shape : Shape kind words forms) (masks : Masks kind before text out) :
    text = [] ↔ out = [] := by
  cases masks with
  | ends => simp
  | keeps free further => simp
  | hides found split nonempty further shows =>
      rcases shape.exists_cons found with ⟨_, _, rfl, _⟩
      rcases shape.exists_cons_mask found with ⟨_, _, rfl, _⟩
      simp [shows]

/-- A character that no secret begins with is kept. -/
theorem exists_out (shape : Shape kind words forms) {rest : Text}
    (masks : Masks kind before (character :: rest) out) (closed : opensMask character = false) :
    ∃ others, out = character :: others ∧ Masks kind (some character) rest others := by
  cases masks with
  | keeps free further => exact ⟨_, rfl, further⟩
  | hides found =>
      rw [shape.free_of_not_opensMask closed] at found
      cases found

/-- A character that no mask begins with was kept. -/
theorem exists_text (shape : Shape kind words forms) {others : Text}
    (masks : Masks kind before text (character :: others)) (closed : opensMask character = false) :
    ∃ rest, text = character :: rest ∧ Masks kind (some character) rest others := by
  cases masks with
  | keeps free further => exact ⟨_, rfl, further⟩
  | hides found split nonempty further shows =>
      rcases shape.exists_cons_mask found with ⟨first, rest, rfl, opens⟩
      rcases List.cons.inj shows with ⟨rfl, _⟩
      rw [closed] at opens
      cases opens

/-- Where something begins that can be part of a secret, something did before. -/
theorem head_text (shape : Shape kind words forms) {others : Text}
    (masks : Masks kind before text (character :: others)) (isPart : isSecretChar character = true) :
    ∃ first rest, text = first :: rest ∧ isSecretChar first = true := by
  cases masks with
  | keeps free further => exact ⟨_, _, rfl, isPart⟩
  | hides found =>
      rcases shape.exists_cons found with ⟨first, rest, rfl, opens⟩
      simp only [opensMask, Bool.and_eq_true] at opens
      exact ⟨first, rest, rfl, opens.1.1⟩

/-- Dropping characters that begin no mask goes along with the pass. -/
theorem dropWhile (shape : Shape kind words forms) {drops : Char → Bool}
    (closed : ∀ character, drops character = true → opensMask character = false)
    (masks : Masks kind before text out) :
    ∃ last, Masks kind last (text.dropWhile drops) (out.dropWhile drops) := by
  induction masks with
  | ends => exact ⟨none, .ends⟩
  | keeps free further step =>
      rename_i before character rest out
      by_cases isDropped : drops character = true
      · simpa [List.dropWhile_cons_of_pos, isDropped] using step
      · rw [List.dropWhile_cons_of_neg isDropped, List.dropWhile_cons_of_neg isDropped]
        exact ⟨before, .keeps free further⟩
  | hides found split nonempty further shows step =>
      rename_i before text secret after mask rest out
      have stays (character : Char) (opens : opensMask character = true) :
          ¬ drops character = true := by
        intro isDropped
        rw [closed character isDropped] at opens
        cases opens
      have masks : Masks kind before text out := .hides found split nonempty further shows
      rcases shape.exists_cons found with ⟨first, others, isText, opens⟩
      rcases shape.exists_cons_mask found with ⟨firstShown, othersShown, isMask, opensShown⟩
      rw [isMask, List.cons_append] at shows
      rw [isText, shows] at masks ⊢
      rw [List.dropWhile_cons_of_neg (stays first opens),
        List.dropWhile_cons_of_neg (stays firstShown opensShown)]
      exact ⟨before, masks⟩

theorem trimStart (shape : Shape kind words forms) (masks : Masks kind before text out) :
    ∃ last, Masks kind last (Text.trimStart text) (Text.trimStart out) :=
  masks.dropWhile shape fun _ => not_opensMask_of_isBlank

theorem not_opensMask_of_isQuote (quote : isQuote character = true) :
    opensMask character = false := by
  simp [opensMask, isSecretChar, quote]

theorem dropQuote_cons_of_not {rest : Text} (notQuote : ¬ isQuote character = true) :
    dropQuote (character :: rest) = character :: rest := by
  rw [dropQuote, if_neg notQuote]

theorem dropQuote (shape : Shape kind words forms) (masks : Masks kind before text out) :
    ∃ last, Masks kind last (Access.dropQuote text) (Access.dropQuote out) := by
  cases masks with
  | ends => exact ⟨none, .ends⟩
  | keeps free further =>
      rename_i character rest out
      by_cases quote : isQuote character = true
      · simp only [Access.dropQuote, quote, if_true]
        exact ⟨_, further⟩
      · rw [dropQuote_cons_of_not quote, dropQuote_cons_of_not quote]
        exact ⟨_, .keeps free further⟩
  | hides found split nonempty further shows =>
      have stays (character : Char) (opens : opensMask character = true) :
          ¬ isQuote character = true := by
        intro quote
        rw [not_opensMask_of_isQuote quote] at opens
        cases opens
      have masks : Masks kind before text out := .hides found split nonempty further shows
      rcases shape.exists_cons found with ⟨first, others, isText, opens⟩
      rcases shape.exists_cons_mask found with ⟨firstShown, othersShown, isMask, opensShown⟩
      rw [isMask, List.cons_append] at shows
      rw [isText, shows] at masks ⊢
      rw [dropQuote_cons_of_not (stays first opens),
        dropQuote_cons_of_not (stays firstShown opensShown)]
      exact ⟨before, masks⟩

/-- A text that begins none of the words of a kind anywhere is kept. -/
theorem exists_append (shape : Shape kind words forms) {front after : Text}
    (masks : Masks kind before (front ++ after) out)
    (apart : ∀ later, later <:+ front → later ≠ [] → ∀ word ∈ words, Apart word (later.map fold)) :
    ∃ last others, out = front ++ others ∧ Masks kind last after others := by
  induction front generalizing before out with
  | nil => exact ⟨before, out, rfl, masks⟩
  | cons character front step =>
      have free : kind before (character :: front ++ after) = none :=
        shape.free_of_apart (apart _ (List.suffix_refl _) (List.cons_ne_nil _ _)) after
      cases masks with
      | keeps _ further =>
          rcases step further fun later isLater =>
            apart later (isLater.trans (List.suffix_cons character front)) with
            ⟨last, others, rfl, masks⟩
          exact ⟨last, others, rfl, masks⟩
      | hides found =>
          rw [free] at found
          cases found

/-- Where a word stands in a masked text, it stood before, unless it runs into a mask. -/
theorem exists_word {word rest : Text} (masks : Masks kind before text out)
    (across : ∀ later, later <:+ word → later ≠ [] → ∀ before text mask after behind,
      kind before text = some (mask, after) → ∀ spelled,
        mask ++ behind = spelled ++ rest → spelled.map fold ≠ later)
    {spelled : Text} (split : out = spelled ++ rest) (folds : spelled.map fold = word) :
    ∃ last front, text = spelled ++ front ∧ Masks kind last front rest := by
  induction word generalizing before text out spelled with
  | nil =>
      rw [List.map_eq_nil_iff.mp folds, List.nil_append] at split
      subst split
      rw [List.map_eq_nil_iff.mp folds]
      exact ⟨before, text, rfl, masks⟩
  | cons letter word step =>
      cases spelled with
      | nil => cases folds
      | cons first spelled =>
          simp only [List.map_cons, List.cons.injEq] at folds
          cases masks with
          | ends => cases split
          | keeps free further =>
              rename_i character kept others
              rcases List.cons.inj split with ⟨rfl, isOut⟩
              rcases step further
                (fun later isLater => across later (isLater.trans (List.suffix_cons letter word)))
                isOut folds.2 with ⟨last, front, rfl, masks⟩
              exact ⟨last, front, rfl, masks⟩
          | hides found _ _ _ shows =>
              have runsIn := across _ (List.suffix_refl _) (List.cons_ne_nil _ _) _ _ _ _ _ found
                (first :: spelled) (shows.symm.trans split)
              simp [folds] at runsIn

end Masks

end DocBinder.Access
