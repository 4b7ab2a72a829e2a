import DocBinder.Placeholder.Build
import DocBinder.Proofs.Text.Lines
import DocBinder.Proofs.Text.Search

/-!
# Tokens

A token is a word and a number between triple brackets. No bracket stands inside, which is why two
tokens in a text either stand apart or are the same one, and why no token can be read across the
end of a line.
-/

namespace DocBinder

namespace Text

/-- The shape of tokens: triple brackets around characters that are no brackets and no line
feeds. -/
def IsToken (token : Text) : Prop :=
  ∃ inner, token = '[' :: '[' :: '[' :: (inner ++ [']', ']', ']']) ∧
    '[' ∉ inner ∧ ']' ∉ inner ∧ '\n' ∉ inner

variable {first second text : Text} {place other : Nat}

theorem IsToken.ne_nil (isToken : first.IsToken) : first ≠ [] := by
  rcases isToken with ⟨inner, rfl, _⟩
  simp

theorem IsToken.lineFeed_not_mem (isToken : first.IsToken) : '\n' ∉ first := by
  rcases isToken with ⟨inner, rfl, _, _, noBreak⟩
  simpa using noBreak

/-- A token is no beginning of another one. -/
theorem IsToken.eq_of_standsAt (firstIs : first.IsToken) (secondIs : second.IsToken)
    (firstStands : first.StandsAt text place) (secondStands : second.StandsAt text place) :
    first = second := by
  rcases firstIs with ⟨firstInner, rfl, _, firstClosed, _⟩
  rcases secondIs with ⟨secondInner, rfl, _, secondClosed, _⟩
  rcases firstStands with ⟨firstRest, firstSplit⟩
  rcases secondStands with ⟨secondRest, secondSplit⟩
  have same := firstSplit.trans secondSplit.symm
  simp only [List.cons_append, List.append_assoc, List.cons.injEq, true_and] at same
  rw [(append_cons_inj firstClosed secondClosed same).1]

/-- Where a token stands, no other one begins before its end. -/
theorem IsToken.apart (firstIs : first.IsToken) (secondIs : second.IsToken)
    (firstStands : first.StandsAt text place) (secondStands : second.StandsAt text other)
    (before : place < other) : place + first.length ≤ other := by
  rcases firstIs with ⟨inner, rfl, notOpened, _, _⟩
  rcases secondIs with ⟨secondInner, rfl, _, _, _⟩
  by_contra overlap
  rcases firstStands with ⟨firstRest, firstSplit⟩
  rcases secondStands with ⟨secondRest, secondSplit⟩
  have bracket (distance : Nat) (below : distance < 3) :
      text[other + distance]? = some '[' := by
    rw [← List.getElem?_drop, ← secondSplit]
    rcases distance with _ | _ | _ | distance
    · rfl
    · rfl
    · rfl
    · omega
  have inside (distance : Nat) (below : distance < inner.length + 3) :
      text[place + (distance + 3)]? ≠ some '[' := by
    intro isBracket
    rw [← List.getElem?_drop, ← firstSplit] at isBracket
    simp only [List.cons_append, List.getElem?_cons_succ] at isBracket
    rw [List.getElem?_append_left (by simpa using below)] at isBracket
    have mem := List.mem_of_getElem? isBracket
    simp [notOpened] at mem
  simp only [List.length_cons, List.length_append, List.length_nil] at overlap
  -- one of the opening brackets of the second token would stand behind those of the first one
  rcases Nat.lt_or_ge (other - place) 3 with near | far
  · refine inside (other - place - 1) (by omega) ?_
    rw [show place + (other - place - 1 + 3) = other + 2 by omega]
    exact bracket 2 (by omega)
  · refine inside (other - place - 3) (by omega) ?_
    rw [show place + (other - place - 3 + 3) = other + 0 by omega]
    exact bracket 0 (by omega)

theorem IsToken.separate (isToken : first.IsToken) : first.Separate :=
  fun _ _ _ firstStands secondStands before => isToken.apart isToken firstStands secondStands before

end Text

/-! ## The tokens of a builder -/

namespace Placeholder

theorem digits_toString (number : Nat) :
    ∀ character ∈ (toString number).toList, character.isDigit = true := by
  intro character mem
  rw [Nat.toString_eq_repr, Nat.toList_repr] at mem
  exact Nat.isDigit_of_mem_toDigits (by omega) (by omega) mem

theorem isToken_token (kind : TokenKind) (number : Nat) : (token kind number).IsToken := by
  refine ⟨kind.word ++ '_' :: (toString number).toList, by simp [token], ?_⟩
  have absent (character : Char) (notWord : ∀ kind : TokenKind, character ∉ kind.word)
      (notLine : character ≠ '_') (notDigit : character.isDigit = false) :
      character ∉ kind.word ++ '_' :: (toString number).toList := by
    intro mem
    rcases List.mem_append.mp mem with mem | mem
    · exact notWord kind mem
    · rcases List.mem_cons.mp mem with same | mem
      · exact notLine same
      · rw [digits_toString number character mem] at notDigit
        cases notDigit
  refine ⟨absent _ ?_ (by decide) (by decide), absent _ ?_ (by decide) (by decide),
    absent _ ?_ (by decide) (by decide)⟩ <;>
  · intro kind
    cases kind <;> decide

/-- The characters of tokens other than digits. -/
def tokenLetters : Text :=
  ['[', ']', '_', 'L', 'I', 'N', 'K', 'M', 'A', 'G', 'E', 'D', 'R']

theorem not_mem_token {character : Char} (notLetter : character ∉ tokenLetters)
    (notDigit : character.isDigit = false) (kind : TokenKind) (number : Nat) :
    character ∉ token kind number := by
  have opens : ['[', '[', '['] ⊆ tokenLetters := by decide
  have closes : [']', ']', ']'] ⊆ tokenLetters := by decide
  have words : kind.word ⊆ tokenLetters := by cases kind <;> decide
  intro mem
  rcases List.mem_append.mp mem with mem | mem
  · rcases List.mem_append.mp mem with mem | mem
    · rcases List.mem_append.mp mem with mem | mem
      · exact notLetter (opens mem)
      · exact notLetter (words mem)
    · rcases List.mem_cons.mp mem with rfl | mem
      · exact notLetter (by decide)
      · rw [digits_toString number character mem] at notDigit
        cases notDigit
  · exact notLetter (closes mem)

/-- Tokens differ by their kinds and by their numbers. -/
theorem token_inj {firstKind secondKind : TokenKind} {first second : Nat}
    (same : token firstKind first = token secondKind second) :
    firstKind = secondKind ∧ first = second := by
  have kinds : firstKind = secondKind := by
    cases firstKind <;> cases secondKind <;> first
      | rfl
      | (simp [token, TokenKind.word] at same)
  subst secondKind
  refine ⟨rfl, ?_⟩
  simp only [token, List.append_cancel_left_eq, List.append_assoc, List.cons_append, List.cons.injEq,
    true_and, List.append_cancel_right_eq] at same
  rw [Nat.toString_eq_repr, Nat.toString_eq_repr, Nat.toList_repr, Nat.toList_repr] at same
  have numbers := congrArg (Nat.ofDigitChars 10 · 0) same
  simpa only [Nat.ofDigitChars_ten_toDigits] using numbers

end Placeholder

end DocBinder
