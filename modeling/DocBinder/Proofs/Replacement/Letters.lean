import DocBinder.Proofs.Replacement.Token

/-!
# Texts with tokens told apart

A text that tokens were put into is read as letters: single characters, and whole tokens. As long as
no three opening brackets stand side by side among the characters, a token can be read off the text
only where it was put.
-/

namespace DocBinder.Placeholder

/-- A character, or a whole token. -/
inductive Letter where
  | plain (character : Char)
  | token (text : Text)
deriving DecidableEq

namespace Letter

/-- The characters of a letter. -/
def text : Letter → Text
  | .plain character => [character]
  | .token text => text

/-- The token that a letter is. -/
def token? : Letter → Option Text
  | .plain _ => none
  | .token text => some text

end Letter

/-- The text that letters make. -/
def spell (letters : List Letter) : Text :=
  letters.flatMap Letter.text

/-- The tokens among letters, in order. -/
def tokensOf (letters : List Letter) : List Text :=
  letters.filterMap Letter.token?

variable {letters first second : List Letter} {token text : Text}

@[simp] theorem spell_nil : spell [] = [] :=
  rfl

@[simp] theorem spell_plain (character : Char) (letters : List Letter) :
    spell (.plain character :: letters) = character :: spell letters :=
  rfl

@[simp] theorem spell_token (token : Text) (letters : List Letter) :
    spell (.token token :: letters) = token ++ spell letters :=
  rfl

@[simp] theorem spell_append (first second : List Letter) :
    spell (first ++ second) = spell first ++ spell second :=
  List.flatMap_append

@[simp] theorem spell_map_plain (text : Text) : spell (text.map .plain) = text := by
  induction text with
  | nil => rfl
  | cons character rest step => rw [List.map_cons, spell_plain, step]

@[simp] theorem tokensOf_nil : tokensOf [] = [] :=
  rfl

@[simp] theorem tokensOf_plain (character : Char) (letters : List Letter) :
    tokensOf (.plain character :: letters) = tokensOf letters :=
  rfl

@[simp] theorem tokensOf_token (token : Text) (letters : List Letter) :
    tokensOf (.token token :: letters) = token :: tokensOf letters :=
  rfl

@[simp] theorem tokensOf_append (first second : List Letter) :
    tokensOf (first ++ second) = tokensOf first ++ tokensOf second :=
  List.filterMap_append

@[simp] theorem tokensOf_map_plain (text : Text) : tokensOf (text.map .plain) = [] := by
  induction text with
  | nil => rfl
  | cons character rest step => rw [List.map_cons, tokensOf_plain, step]

theorem mem_tokensOf : token ∈ tokensOf letters ↔ .token token ∈ letters := by
  induction letters with
  | nil => simp
  | cons letter rest step => cases letter <;> simp [step]

/-! ## Three brackets side by side -/

/-- The brackets that a token begins with. -/
def opening : Text :=
  ['[', '[', '[']

/-- No three opening brackets stand side by side among the characters. -/
def Calm (letters : List Letter) : Prop :=
  ¬ opening.map .plain <:+: letters

theorem Calm.of_isInfix (calm : Calm second) (isInfix : first <:+: second) : Calm first :=
  fun stands => calm (stands.trans isInfix)

theorem calm_map_plain : Calm (text.map .plain) ↔ ¬ opening <:+: text := by
  rw [Calm, not_iff_not]
  constructor
  · rintro ⟨front, back, split⟩
    have spelled := congrArg spell split
    rw [spell_append, spell_append, spell_map_plain, spell_map_plain] at spelled
    exact ⟨_, _, spelled⟩
  · intro isInfix
    exact isInfix.map Letter.plain

theorem calm_token (token : Text) : Calm [.token token] := by
  rintro ⟨front, back, same⟩
  have length := congrArg List.length same
  simp only [opening, List.length_append, List.length_map, List.length_cons, List.length_nil] at length
  omega

/-- Letters stay calm side by side unless a bracket stands on either side of where they meet. -/
theorem Calm.append (firstCalm : Calm first) (secondCalm : Calm second)
    (meets : first.getLast? ≠ some (.plain '[') ∨ second.head? ≠ some (.plain '[')) :
    Calm (first ++ second) := by
  intro stands
  rcases List.infix_append_iff.mp stands with stands | stands | ⟨left, right, split, ends, begins⟩
  · exact firstCalm stands
  · exact secondCalm stands
  · have isBracket : ∀ letter ∈ left ++ right, letter = .plain '[' := by
      rw [← split]
      decide
    rcases ends with ⟨front, rfl⟩
    rcases begins with ⟨back, rfl⟩
    rcases List.eq_nil_or_concat left with rfl | ⟨others, last, rfl⟩
    · rw [List.nil_append] at split
      exact secondCalm ⟨[], back, by rw [split, List.nil_append]⟩
    · rcases right with _ | ⟨next, further⟩
      · rw [List.append_nil] at split
        exact firstCalm ⟨front, [], by rw [split, List.append_nil]⟩
      · have lastIs := isBracket last (by simp)
        have nextIs := isBracket next (by simp)
        rcases meets with meets | meets
        · apply meets
          rw [lastIs, List.concat_eq_append, ← List.append_assoc, List.getLast?_concat]
        · apply meets
          rw [nextIs]
          rfl

/-! ## Reading tokens off -/

/-- Calm letters whose tokens have the shape of tokens. -/
structure Legible (letters : List Letter) : Prop where
  calm : Calm letters
  areTokens : ∀ token ∈ tokensOf letters, token.IsToken

theorem Legible.of_isInfix (legible : Legible second) (isInfix : first <:+: second) :
    Legible first := by
  refine ⟨legible.calm.of_isInfix isInfix, ?_⟩
  intro token mem
  apply legible.areTokens
  rw [mem_tokensOf] at mem ⊢
  exact isInfix.subset mem

theorem Legible.tail {letter : Letter} (legible : Legible (letter :: letters)) : Legible letters :=
  legible.of_isInfix (List.suffix_cons letter letters).isInfix

/-- Where a character begins calm letters, no token stands. -/
theorem Legible.not_standsAt_plain {character : Char} {token : Text}
    (legible : Legible (.plain character :: letters)) (isToken : token.IsToken) :
    ¬ token.StandsAt (spell (.plain character :: letters)) 0 := by
  intro stands
  rcases isToken with ⟨inner, rfl, closed⟩
  have isToken : Text.IsToken ('[' :: '[' :: '[' :: (inner ++ [']', ']', ']'])) := ⟨inner, rfl, closed⟩
  have begins := stands
  -- A token among the first three letters would stand across the one that is read here.
  have notBehind (front : List Letter) (few : (spell front).length < 3) (other : Text)
      (rest : List Letter) (split : .plain character :: letters = front ++ .token other :: rest)
      (further : 0 < (spell front).length) : False := by
    have otherIs : other.IsToken := legible.areTokens other (by
      rw [split, mem_tokensOf]
      simp)
    have there : other.StandsAt (spell (.plain character :: letters)) (spell front).length := by
      rw [split, spell_append, spell_token]
      exact Text.standsAt_append _ _ _
    have apart := isToken.apart otherIs stands there further
    simp only [List.length_cons] at apart
    omega
  rcases begins with ⟨behind, same⟩
  simp only [List.drop_zero, spell_plain, List.cons_append, List.cons.injEq] at same
  rcases same with ⟨rfl, same⟩
  rcases letters with _ | ⟨second, rest⟩
  · cases same
  rcases second with second | other
  · rw [spell_plain, List.cons.injEq] at same
    rcases same with ⟨rfl, same⟩
    rcases rest with _ | ⟨third, rest⟩
    · cases same
    rcases third with third | other
    · rw [spell_plain, List.cons.injEq] at same
      rcases same with ⟨rfl, same⟩
      exact legible.calm ⟨[], rest, rfl⟩
    · exact notBehind [.plain '[', .plain '['] (by decide) other rest rfl (by decide)
  · exact notBehind [.plain '['] (by decide) other rest rfl (by decide)

/-- A token stands in a legible text exactly where it was put. -/
theorem Legible.standsAt_iff {token : Text} (legible : Legible letters) (isToken : token.IsToken)
    (place : Nat) :
    token.StandsAt (spell letters) place ↔
      ∃ front back, letters = front ++ .token token :: back ∧ (spell front).length = place := by
  constructor
  · intro stands
    induction letters generalizing place with
    | nil =>
        have within := stands.within isToken.ne_nil
        have positive := List.length_pos_iff.mpr isToken.ne_nil
        simp only [spell_nil, List.length_nil] at within
        omega
    | cons letter rest step =>
        have behind (distance : Nat) (stands : token.StandsAt (spell rest) distance)
            (same : place = letter.text.length + distance) :
            ∃ front back, letter :: rest = front ++ .token token :: back ∧
              (spell front).length = place := by
          rcases step legible.tail distance stands with ⟨front, back, rfl, rfl⟩
          refine ⟨letter :: front, back, rfl, ?_⟩
          rw [same, ← List.length_append]
          rfl
        have whole : spell (letter :: rest) = letter.text ++ spell rest := rfl
        cases letter with
        | plain character =>
            cases place with
            | zero => exact absurd stands (legible.not_standsAt_plain isToken)
            | succ distance => exact behind distance stands (Nat.add_comm _ _)
        | token other =>
            have otherIs : other.IsToken := legible.areTokens other (by simp)
            have there : other.StandsAt (spell (.token other :: rest)) 0 := List.prefix_append _ _
            rcases Nat.eq_zero_or_pos place with rfl | later
            · refine ⟨[], rest, ?_, rfl⟩
              rw [isToken.eq_of_standsAt otherIs stands there]
              rfl
            · have apart := otherIs.apart isToken there stands later
              rw [Nat.zero_add] at apart
              rw [whole, ← Nat.add_sub_cancel' apart] at stands
              exact behind _ ((Text.standsAt_append_right _ _ _ _).mp stands)
                (Nat.add_sub_cancel' apart).symm
  · rintro ⟨front, back, rfl, rfl⟩
    rw [spell_append, spell_token]
    exact Text.standsAt_append _ _ _

theorem Legible.isInfix_iff {token : Text} (legible : Legible letters) (isToken : token.IsToken) :
    token <:+: spell letters ↔ token ∈ tokensOf letters := by
  rw [Text.isInfix_iff, mem_tokensOf]
  constructor
  · rintro ⟨place, stands⟩
    rcases (legible.standsAt_iff isToken place).mp stands with ⟨front, back, rfl, _⟩
    simp
  · intro mem
    rcases List.append_of_mem mem with ⟨front, back, split⟩
    exact ⟨_, (legible.standsAt_iff isToken _).mpr ⟨front, back, split, rfl⟩⟩

/-- A token that was put into a text once stands in it once. -/
theorem Legible.standsOnce {token : Text} (legible : Legible letters)
    (distinct : (tokensOf letters).Nodup) (mem : token ∈ tokensOf letters) :
    token.StandsOnce (spell letters) := by
  have isToken := legible.areTokens token mem
  rcases List.append_of_mem (mem_tokensOf.mp mem) with ⟨front, back, rfl⟩
  refine ⟨(spell front).length, fun place => ?_⟩
  rw [legible.standsAt_iff isToken]
  constructor
  · rintro ⟨otherFront, otherBack, split, rfl⟩
    rw [tokensOf_append, tokensOf_token, List.nodup_append, List.nodup_cons] at distinct
    rcases distinct with ⟨_, ⟨notBehind, _⟩, apart⟩
    have notBefore : .token token ∉ front := by
      intro before
      exact apart token (mem_tokensOf.mpr before) token List.mem_cons_self rfl
    rcases List.append_eq_append_iff.mp split with ⟨between, rfl, tail⟩ | ⟨between, rfl, tail⟩
    · rcases between with _ | ⟨letter, between⟩
      · rw [List.append_nil]
      · rw [List.cons_append, List.cons.injEq] at tail
        rw [tail.2, mem_tokensOf] at notBehind
        simp at notBehind
    · rcases between with _ | ⟨letter, between⟩
      · rw [List.append_nil]
      · rw [List.cons_append, List.cons.injEq] at tail
        rw [← tail.1] at notBefore
        simp at notBefore
  · rintro rfl
    exact ⟨front, back, rfl, rfl⟩

end DocBinder.Placeholder
