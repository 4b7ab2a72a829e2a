import DocBinder.Proofs.Replacement.Token
import DocBinder.Text.Digit
import DocBinder.Text.Word

/-!
# Numbered tokens in texts

A numbered token is the word of a kind and some digits between triple brackets. Texts bear tokens in an
order. What is cut out of a text takes no token with it when it holds no character of tokens, or when it
is an underscore with something beside it that does not stand beside the one of a token.
-/

namespace DocBinder

open Placeholder

namespace Text

/-- A token of a kind with a decimal number, whatever the script of its digits. -/
def IsNumbered (token : Text) : Prop :=
  ∃ (kind : TokenKind) (digits : Text),
    token = ['[', '[', '['] ++ kind.word ++ '_' :: digits ++ [']', ']', ']'] ∧ digits ≠ [] ∧
      ∀ digit ∈ digits, isDecimal digit = true

/-- A text bears tokens one behind the other. -/
inductive Bears : Text → List Text → Prop
  | none (text : Text) : Bears text []
  | token (front : Text) {token rest : Text} {tokens : List Text} (isNumbered : token.IsNumbered)
      (following : Bears rest tokens) : Bears (front ++ (token ++ rest)) (token :: tokens)

/-- Texts bear tokens one behind the other, each token within one of them. -/
inductive Spread : List Text → List Text → Prop
  | nil : Spread [] []
  | cons {text : Text} {texts own tokens : List Text} (bears : Bears text own)
      (following : Spread texts tokens) : Spread (text :: texts) (own ++ tokens)

/-! ## The characters of numbered tokens -/

/-- Whether every range but those below a bound lies within a range of another table. -/
def Ranges.covered (bound : Nat) (ranges wider : List (Nat × Nat)) : Bool :=
  ranges.all fun range => Nat.blt range.2 bound ||
    wider.any fun other => Nat.ble other.1 range.1 && Nat.ble range.2 other.2

theorem Ranges.isSome_find? {bound : Nat} {ranges wider : Array (Nat × Nat)}
    (isCovered : covered bound ranges.toList wider.toList = true) {character : Char}
    (above : bound ≤ character.toNat) (found : (find? ranges character).isSome = true) :
    (find? wider character).isSome = true := by
  rw [find?, Array.find?_isSome] at found ⊢
  rcases found with ⟨range, mem, inRange⟩
  have own := List.all_eq_true.mp isCovered range (Array.mem_def.mp mem)
  simp only [Bool.or_eq_true, Bool.and_eq_true, decide_eq_true_eq, List.any_eq_true, Nat.blt_eq,
    Nat.ble_eq] at own inRange ⊢
  rcases own with below | ⟨other, otherMem, starts, stops⟩
  · omega
  · exact ⟨other, Array.mem_def.mpr otherMem, Nat.le_trans starts inRange.1,
      Nat.le_trans inRange.2 stops⟩

theorem isWord_of_isDecimal {character : Char} (decimal : isDecimal character = true) :
    isWord character = true := by
  unfold isDecimal digitValue? at decimal
  unfold isWord
  split at decimal
  · rename_i isAscii
    have isDigit : character.isDigit = true := by
      by_contra other
      simp [other] at decimal
    rw [if_pos isAscii, Char.isAlphanum, isDigit, Bool.or_true, Bool.true_or]
  · rename_i notAscii
    rw [Option.isSome_map] at decimal
    rw [if_neg notAscii]
    -- the ASCII digits have a range of their own, which the table of word characters leaves out
    have isCovered : Ranges.covered 0x80 digitRanges.toList wordRanges.toList = true := by
      decide +kernel
    refine Ranges.isSome_find? isCovered ?_ decimal
    rw [UInt32.lt_iff_toNat_lt] at notAscii
    exact Nat.not_lt.mp notAscii

namespace IsNumbered

variable {token : Text}

theorem not_mem {character : Char} (notLetter : character ∉ tokenLetters)
    (notDecimal : isDecimal character = false) (isNumbered : token.IsNumbered) :
    character ∉ token := by
  rcases isNumbered with ⟨kind, digits, rfl, _, decimal⟩
  have opens : ['[', '[', '['] ⊆ tokenLetters := by decide
  have closes : [']', ']', ']'] ⊆ tokenLetters := by decide
  have words : kind.word ⊆ tokenLetters := by cases kind <;> decide
  have line : '_' ∈ tokenLetters := by decide
  simp only [List.mem_append, List.mem_cons (b := '_')]
  rintro (((mem | mem) | rfl | mem) | mem)
  · exact notLetter (opens mem)
  · exact notLetter (words mem)
  · exact notLetter line
  · rw [decimal character mem] at notDecimal
    cases notDecimal
  · exact notLetter (closes mem)

theorem exists_cons (isNumbered : token.IsNumbered) : ∃ rest, token = '[' :: rest := by
  rcases isNumbered with ⟨kind, digits, rfl, _⟩
  exact ⟨_, rfl⟩

theorem exists_concat (isNumbered : token.IsNumbered) : ∃ front, token = front ++ [']'] := by
  rcases isNumbered with ⟨kind, digits, rfl, _⟩
  exact ⟨['[', '[', '['] ++ kind.word ++ '_' :: digits ++ [']', ']'], by simp⟩

/-- The only underscore of a numbered token stands between two word characters. -/
theorem exists_underscore (isNumbered : token.IsNumbered) :
    ∃ front last first back, token = front ++ last :: '_' :: first :: back ∧
      '_' ∉ front ++ [last] ∧ '_' ∉ first :: back ∧ isWord last = true ∧ isWord first = true := by
  rcases isNumbered with ⟨kind, digits, rfl, nonempty, decimal⟩
  rcases digits with _ | ⟨digit, digits⟩
  · exact absurd rfl nonempty
  have notDigit : '_' ∉ digit :: digits := by
    intro mem
    have isDecimal := decimal _ mem
    revert isDecimal
    decide
  have isDigit := isWord_of_isDecimal (decimal digit List.mem_cons_self)
  have notBehind : '_' ∉ digit :: (digits ++ [']', ']', ']']) := by
    rw [← List.cons_append, List.mem_append, not_or]
    exact ⟨notDigit, by decide⟩
  cases kind with
  | link =>
      exact ⟨['[', '[', '[', 'L', 'I', 'N'], 'K', digit, digits ++ [']', ']', ']'], rfl, by decide,
        notBehind, by decide, isDigit⟩
  | image =>
      exact ⟨['[', '[', '[', 'I', 'M', 'A', 'G'], 'E', digit, digits ++ [']', ']', ']'], rfl,
        by decide, notBehind, by decide, isDigit⟩
  | diagram =>
      exact ⟨['[', '[', '[', 'D', 'I', 'A', 'G', 'R', 'A'], 'M', digit, digits ++ [']', ']', ']'],
        rfl, by decide, notBehind, by decide, isDigit⟩

/-- Where a part of a numbered token begins with an underscore, word characters stand on both sides. -/
theorem exists_of_pending {inner pending : Text} (isNumbered : (inner ++ '_' :: pending).IsNumbered) :
    (∃ front last, inner = front ++ [last] ∧ isWord last = true) ∧
      ∃ first back, pending = first :: back ∧ isWord first = true ∧ first ≠ '_' := by
  rcases isNumbered.exists_underscore with ⟨front, last, first, back, same, before, behind, lastIs,
    firstIs⟩
  have whole : inner ++ '_' :: pending = (front ++ [last]) ++ '_' :: first :: back := by
    rw [same, List.append_assoc, List.singleton_append]
  have middle : inner = front ++ [last] ∧ pending = first :: back := by
    rcases List.append_eq_append_iff.mp whole with ⟨between, isFront, tail⟩ | ⟨between, isInner, tail⟩
    · rcases between with _ | ⟨character, between⟩
      · rw [List.append_nil] at isFront
        exact ⟨isFront.symm, (List.cons.inj tail).2⟩
      · cases tail
        simp [isFront] at before
    · rcases between with _ | ⟨character, between⟩
      · rw [List.append_nil] at isInner
        exact ⟨isInner, (List.cons.inj tail).2.symm⟩
      · rw [List.cons_append, List.cons.injEq] at tail
        rw [tail.2] at behind
        simp at behind
  rcases middle with ⟨rfl, rfl⟩
  refine ⟨⟨front, last, rfl, lastIs⟩, first, back, rfl, firstIs, ?_⟩
  rintro rfl
  exact behind List.mem_cons_self

end IsNumbered

/-! ## What overlaps no token -/

/-- No numbered token overlaps what stands between two texts. -/
def Aside (front middle back : Text) : Prop :=
  ∀ before token behind, token.IsNumbered →
    front ++ (middle ++ back) = before ++ (token ++ behind) →
      (∃ between, front = before ++ (token ++ between)) ∨
        ∃ between, before = front ++ (middle ++ between)

/-- What holds no opening bracket is overlapped by a token only where it begins inside of it. -/
theorem aside_of_not_begun {front middle back : Text} (unopened : '[' ∉ middle)
    (notBegun : ∀ before inner pending behind, (inner ++ pending).IsNumbered → pending ≠ [] →
      front = before ++ inner → pending ++ behind ≠ middle ++ back) : Aside front middle back := by
  intro before token behind isNumbered same
  rcases List.append_eq_append_iff.mp same with ⟨between, rfl, rest⟩ | ⟨inner, rfl, rest⟩
  · right
    rcases List.append_eq_append_iff.mp rest with ⟨further, rfl, _⟩ | ⟨begun, isMiddle, tail⟩
    · exact ⟨further, rfl⟩
    · rcases begun with _ | ⟨character, begun⟩
      · rw [List.append_nil] at isMiddle
        exact ⟨[], by rw [isMiddle, List.append_nil]⟩
      · rcases isNumbered.exists_cons with ⟨rest, rfl⟩
        rw [List.cons_append, List.cons_append, List.cons.injEq] at tail
        rw [isMiddle, ← tail.1] at unopened
        simp at unopened
  · left
    rcases List.append_eq_append_iff.mp rest with ⟨further, rfl, _⟩ | ⟨pending, rfl, tail⟩
    · exact ⟨further, rfl⟩
    · by_cases isEmpty : pending = []
      · exact ⟨[], by rw [isEmpty, List.append_nil, List.append_nil]⟩
      · exact absurd tail.symm (notBegun before inner pending behind isNumbered isEmpty rfl)

/-- No token overlaps what holds none of the characters of tokens. -/
theorem aside_of_foreign {middle : Text} (nonempty : middle ≠ [])
    (foreign : ∀ character ∈ middle, character ∉ tokenLetters ∧ isDecimal character = false)
    (front back : Text) : Aside front middle back := by
  rcases middle with _ | ⟨first, middle⟩
  · exact absurd rfl nonempty
  apply aside_of_not_begun
  · intro mem
    exact (foreign _ mem).1 (by decide)
  · intro before inner pending behind isNumbered notEmpty _ same
    rcases pending with _ | ⟨character, pending⟩
    · exact notEmpty rfl
    · rw [List.cons_append, List.cons_append, List.cons.injEq] at same
      rcases foreign first List.mem_cons_self with ⟨notLetter, notDecimal⟩
      apply isNumbered.not_mem notLetter notDecimal
      simp [same.1]

/-- Where a numbered token reaches into what begins with an underscore, it is the one of the token. -/
theorem begun_of_underscore {front inner pending before behind rest : Text}
    (isNumbered : (inner ++ pending).IsNumbered) (notEmpty : pending ≠ [])
    (isFront : front = before ++ inner) (same : pending ++ behind = '_' :: rest) :
    front.getLast?.any isWord = true ∧ rest.head?.any isWord = true ∧ rest.head? ≠ some '_' := by
  rcases pending with _ | ⟨character, pending⟩
  · exact absurd rfl notEmpty
  rw [List.cons_append, List.cons.injEq] at same
  rcases same with ⟨rfl, rfl⟩
  rcases isNumbered.exists_of_pending with ⟨⟨passed, last, rfl, lastIs⟩, first, back, rfl, firstIs,
    differs⟩
  rw [isFront, ← List.append_assoc]
  simp [lastIs, firstIs, differs]

theorem aside_underscores (front back : Text) : Aside front ['_', '_'] back := by
  apply aside_of_not_begun (by decide)
  intro before inner pending behind isNumbered notEmpty isFront same
  exact (begun_of_underscore isNumbered notEmpty isFront same).2.2 rfl

/-- No token overlaps an underscore beside which no word character stands on one side. -/
theorem aside_underscore {front back : Text}
    (free : front.getLast?.any isWord = false ∨ back.head?.any isWord = false) :
    Aside front ['_'] back := by
  apply aside_of_not_begun (by decide)
  intro before inner pending behind isNumbered notEmpty isFront same
  rcases begun_of_underscore isNumbered notEmpty isFront same with ⟨last, first, _⟩
  rcases free with free | free
  · rw [last] at free
    cases free
  · exact absurd first (Bool.eq_false_iff.mp free)

/-! ## Cutting and joining -/

namespace Bears

variable {text front middle back : Text} {tokens own others : List Text}

theorem behind (front : Text) (bears : Bears text tokens) : Bears (front ++ text) tokens := by
  cases bears with
  | none => exact .none _
  | token between isNumbered following =>
      rw [← List.append_assoc]
      exact .token (front ++ between) isNumbered following

theorem append (bears : Bears text own) (further : Bears back others) :
    Bears (text ++ back) (own ++ others) := by
  induction bears with
  | none text => exact further.behind text
  | token front isNumbered following step =>
      rw [List.append_assoc, List.append_assoc]
      exact .token front isNumbered step

theorem before (back : Text) (bears : Bears text tokens) : Bears (text ++ back) tokens := by
  have both := bears.append (.none back)
  rwa [List.append_nil] at both

theorem eq_nil (bears : Bears [] tokens) : tokens = [] := by
  generalize isEmpty : ([] : Text) = text at bears
  cases bears with
  | none => rfl
  | token front isNumbered following =>
      rcases isNumbered.exists_cons with ⟨rest, rfl⟩
      simp at isEmpty

/-- What no token overlaps can be cut out. -/
theorem split (bears : Bears (front ++ (middle ++ back)) tokens) (aside : Aside front middle back) :
    ∃ early late, tokens = early ++ late ∧ Bears front early ∧ Bears back late := by
  generalize isText : front ++ (middle ++ back) = text at bears
  induction bears generalizing front with
  | none => exact ⟨[], [], rfl, .none front, .none back⟩
  | token before isNumbered following step =>
      rename_i token rest tokens
      rcases aside before token rest isNumbered isText with ⟨between, rfl⟩ | ⟨between, rfl⟩
      · have isRest : between ++ (middle ++ back) = rest := by
          simpa using isText
        have asideBehind : Aside between middle back := by
          intro other otherToken further otherNumbered same
          have whole : before ++ (token ++ between) ++ (middle ++ back) =
              (before ++ (token ++ other)) ++ (otherToken ++ further) := by
            rw [List.append_assoc, List.append_assoc, same, List.append_assoc, List.append_assoc]
          rcases aside _ _ _ otherNumbered whole with ⟨gap, split⟩ | ⟨gap, split⟩
          · exact .inl ⟨gap, by simpa using split⟩
          · exact .inr ⟨gap, by simpa using split⟩
        rcases step asideBehind isRest with ⟨early, late, rfl, frontBears, backBears⟩
        exact ⟨token :: early, late, rfl, .token before isNumbered frontBears, backBears⟩
      · have isBack : back = between ++ (token ++ rest) := by
          simpa using isText
        rw [isBack]
        exact ⟨[], token :: tokens, rfl, .none front, .token between isNumbered following⟩

/-- Where no token can begin, none is lost by a cut. -/
theorem of_behind (bears : Bears (front ++ text) tokens) (unopened : '[' ∉ front) :
    Bears text tokens := by
  by_cases isEmpty : front = []
  · rwa [isEmpty, List.nil_append] at bears
  have aside : Aside [] front text := by
    apply aside_of_not_begun unopened
    intro before inner pending behind isNumbered _ isFront same
    rcases List.append_eq_nil_iff.mp isFront.symm with ⟨_, rfl⟩
    rcases isNumbered.exists_cons with ⟨rest, isToken⟩
    rw [List.nil_append] at isToken
    rcases front with _ | ⟨first, front⟩
    · exact isEmpty rfl
    · rw [isToken, List.cons_append, List.cons_append, List.cons.injEq] at same
      simp [← same.1] at unopened
  have cut : Bears ([] ++ (front ++ text)) tokens := bears
  rcases cut.split aside with ⟨early, late, rfl, none, rest⟩
  rwa [none.eq_nil, List.nil_append]

/-- Where no token can end, none is lost by a cut. -/
theorem of_before (bears : Bears (text ++ back) tokens) (unclosed : ']' ∉ back) :
    Bears text tokens := by
  have aside : Aside text back [] := by
    intro before token behind isNumbered same
    left
    rcases isNumbered.exists_concat with ⟨opened, rfl⟩
    have ends : text ++ back = (before ++ opened) ++ ']' :: behind := by
      simpa using same
    rcases List.append_eq_append_iff.mp ends with ⟨between, _, rest⟩ | ⟨between, isText, rest⟩
    · simp [rest] at unclosed
    · rcases between with _ | ⟨character, between⟩
      · rw [List.nil_append] at rest
        simp [← rest] at unclosed
      · cases rest
        exact ⟨between, by simpa using isText⟩
  have cut : Bears (text ++ (back ++ [])) tokens := by
    rwa [List.append_nil]
  rcases cut.split aside with ⟨early, late, rfl, frontBears, none⟩
  rwa [none.eq_nil, List.append_nil]

/-- A text without an opening bracket bears no token. -/
theorem eq_nil_of_unopened (unopened : '[' ∉ text) (bears : Bears text tokens) : tokens = [] := by
  rw [← List.append_nil text] at bears
  exact (bears.of_behind unopened).eq_nil

theorem of_strip (bears : Bears text tokens) : Bears (strip text) tokens := by
  rcases exists_strip text with ⟨front, back, split, frontBlank, backBlank⟩
  rw [split] at bears
  apply (bears.of_behind ?_).of_before
  · intro mem
    have blank := backBlank _ mem
    revert blank
    decide
  · intro mem
    have blank := frontBlank _ mem
    revert blank
    decide

end Bears

/-! ## Several texts -/

namespace Spread

variable {α : Type} {text : Text} {texts further : List Text} {tokens own others : List Text}

theorem none (texts : List Text) : Spread texts [] := by
  induction texts with
  | nil => exact .nil
  | cons text texts step => exact .cons (.none text) step

theorem singleton (bears : Bears text tokens) : Spread [text] tokens := by
  have spread := Spread.cons bears .nil
  rwa [List.append_nil] at spread

theorem eq_nil (spread : Spread [] tokens) : tokens = [] := by
  cases spread
  rfl

/-- Texts of which none bears a token bear none together. -/
theorem eq_nil_of_bare (bare : ∀ text ∈ texts, ∀ own, Bears text own → own = [])
    (spread : Spread texts tokens) : tokens = [] := by
  induction spread with
  | nil => rfl
  | cons bears following step =>
      rw [bare _ List.mem_cons_self _ bears, List.nil_append]
      exact step fun other mem => bare other (List.mem_cons_of_mem _ mem)

theorem bears (spread : Spread [text] tokens) : Bears text tokens := by
  cases spread with
  | cons bears following => rwa [following.eq_nil, List.append_nil]

theorem append (spread : Spread texts own) (behind : Spread further others) :
    Spread (texts ++ further) (own ++ others) := by
  induction spread with
  | nil => exact behind
  | cons bears following step =>
      rw [List.append_assoc]
      exact .cons bears step

theorem exists_append (spread : Spread (texts ++ further) tokens) :
    ∃ own others, tokens = own ++ others ∧ Spread texts own ∧ Spread further others := by
  induction texts generalizing tokens with
  | nil => exact ⟨[], tokens, rfl, .nil, spread⟩
  | cons text texts step =>
      cases spread with
      | cons bears following =>
          rcases step following with ⟨own, others, rfl, ownSpread, otherSpread⟩
          exact ⟨_, others, (List.append_assoc _ _ _).symm, .cons bears ownSpread, otherSpread⟩

/-- What each part keeps is kept by all. -/
theorem flatMap {before after : α → List Text} {parts : List α}
    (keeps : ∀ part ∈ parts, ∀ tokens, Spread (before part) tokens → Spread (after part) tokens)
    (spread : Spread (parts.flatMap before) tokens) : Spread (parts.flatMap after) tokens := by
  induction parts generalizing tokens with
  | nil => exact spread
  | cons part parts step =>
      rw [List.flatMap_cons] at spread ⊢
      rcases spread.exists_append with ⟨own, others, rfl, ownSpread, otherSpread⟩
      apply (keeps part List.mem_cons_self own ownSpread).append
      exact step (fun other mem => keeps other (List.mem_cons_of_mem _ mem)) otherSpread

theorem map {before after : α → Text} {parts : List α}
    (keeps : ∀ part ∈ parts, ∀ tokens, Bears (before part) tokens → Bears (after part) tokens)
    (spread : Spread (parts.map before) tokens) : Spread (parts.map after) tokens := by
  rw [List.map_eq_flatMap] at spread ⊢
  exact spread.flatMap fun part mem tokens own => .singleton (keeps part mem tokens own.bears)

theorem joinLines (spread : Spread texts tokens) : Bears (joinLines texts) tokens := by
  induction spread with
  | nil => exact .none []
  | cons bears following step =>
      rename_i text texts own tokens
      by_cases isLast : texts = []
      · subst isLast
        rw [following.eq_nil, List.append_nil]
        exact bears
      · rw [joinLines_cons text isLast]
        exact bears.append (step.behind ['\n'])

theorem of_nil_cons (spread : Spread ([] :: texts) tokens) : Spread texts tokens := by
  cases spread with
  | cons bears following => rwa [bears.eq_nil, List.nil_append]

theorem dropLast (spread : Spread texts tokens) (isEmpty : texts.getLast? = some []) :
    Spread texts.dropLast tokens := by
  rw [← List.dropLast_append_getLast? [] isEmpty] at spread
  rcases spread.exists_append with ⟨own, others, rfl, ownSpread, last⟩
  rwa [last.of_nil_cons.eq_nil, List.append_nil]

/-- Tokens hold no bar, and so they stand in the pieces between the bars. -/
theorem of_join {pieces : List Text} (nonempty : pieces ≠ [])
    (bears : Bears (join ['|'] pieces) tokens) : Spread pieces tokens := by
  induction pieces generalizing tokens with
  | nil => exact absurd rfl nonempty
  | cons piece pieces step =>
      by_cases isLast : pieces = []
      · subst isLast
        exact .singleton bears
      · rw [join_cons '|' piece isLast] at bears
        have aside : Aside piece ['|'] (join ['|'] pieces) := by
          apply aside_of_foreign (List.cons_ne_nil _ _)
          intro character mem
          rw [List.mem_singleton.mp mem]
          decide
        have cut : Bears (piece ++ (['|'] ++ join ['|'] pieces)) tokens := bears
        rcases cut.split aside with ⟨own, others, rfl, ownBears, otherBears⟩
        exact .cons ownBears (step isLast otherBears)

end Spread

end Text

end DocBinder
