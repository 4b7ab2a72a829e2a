import DocBinder.Proofs.Replacement.References

/-!
# What is left of tokens

Where references give way to tokens or to their texts, the tokens inside them are lost, each other
token stays, and what is put stands there besides. No brackets come together where the text of a link
is left, unless it begins or ends with one. So what a text tells in the end are the tokens that were
put into it and that no link holds.
-/

namespace DocBinder.Placeholder

/-- A text that brackets cannot come together with, whatever stands around it. -/
def Unbracketed (text : Text) : Prop :=
  text.head? ≠ some '[' ∧ text.getLast? ≠ some '['

instance (text : Text) : Decidable (Unbracketed text) :=
  inferInstanceAs (Decidable (_ ∧ _))

theorem Unbracketed.map_plain {text : Text} (unbracketed : Unbracketed text) :
    (text.map Letter.plain).head? ≠ some (.plain '[') ∧
      (text.map Letter.plain).getLast? ≠ some (.plain '[') := by
  have inText {place : Option Char} (free : place ≠ some '[') :
      place.map Letter.plain ≠ some (.plain '[') := by
    intro isBracket
    rcases Option.map_eq_some_iff.mp isBracket with ⟨character, here, same⟩
    cases same
    exact free here
  rw [List.head?_map, List.getLast?_map]
  exact ⟨inText unbracketed.1, inText unbracketed.2⟩

/-- Letters some of which give way to a token or to the text of a link. `lost` are the tokens among
them, and `put` are those that take their place. -/
inductive Rewritten :
    List Letter → List Reference → List Letter → List Text → List Text → Prop
  | done : Rewritten [] [] [] [] []
  | kept (letter : Letter) {rest : List Letter} {found : List Reference} {shown : List Letter}
      {lost put : List Text} (following : Rewritten rest found shown lost put) :
      Rewritten (letter :: rest) found (letter :: shown) lost put
  | token {old : List Letter} {link : Reference} (token : Text) (spelled : spell old = link.source)
      {rest : List Letter} {found : List Reference} {shown : List Letter} {lost put : List Text}
      (following : Rewritten rest found shown lost put) :
      Rewritten (old ++ rest) (link :: found) (.token token :: shown) (tokensOf old ++ lost)
        (token :: put)
  | text {old : List Letter} {link : Reference} (spelled : spell old = link.source)
      (inside : link.text.map .plain <:+: old) (unbracketed : Unbracketed link.text)
      (nonempty : link.text ≠ []) {rest : List Letter} {found : List Reference}
      {shown : List Letter} {lost put : List Text}
      (following : Rewritten rest found shown lost put) :
      Rewritten (old ++ rest) (link :: found) (link.text.map .plain ++ shown) (tokensOf old ++ lost)
        put

namespace Rewritten

variable {letters shown : List Letter} {found : List Reference} {lost put : List Text}

theorem keep (front : List Letter) (rewritten : Rewritten letters found shown lost put) :
    Rewritten (front ++ letters) found (front ++ shown) lost put := by
  induction front with
  | nil => exact rewritten
  | cons letter front step => exact .kept letter step

/-- No token is lost but those that gave way, and none comes up but those that were put. -/
theorem perm (rewritten : Rewritten letters found shown lost put) :
    (tokensOf shown ++ lost).Perm (tokensOf letters ++ put) := by
  induction rewritten with
  | done => exact .refl _
  | kept letter following step =>
      cases letter with
      | plain character => exact step
      | token token => exact step.cons token
  | token token spelled following step =>
      rename_i old link rest found shown lost put
      rw [tokensOf_token, tokensOf_append, List.append_assoc]
      calc
        (token :: tokensOf shown ++ (tokensOf old ++ lost)).Perm
            (token :: (tokensOf old ++ (tokensOf shown ++ lost))) :=
          (List.perm_append_comm_assoc _ _ _).cons token
        List.Perm _ (token :: (tokensOf old ++ (tokensOf rest ++ put))) :=
          (step.append_left (tokensOf old)).cons token
        List.Perm _ (tokensOf old ++ (tokensOf rest ++ token :: put)) := by
          rw [← List.append_assoc, ← List.append_assoc]
          exact List.perm_middle.symm
  | text spelled inside unbracketed nonempty following step =>
      rename_i old link rest found shown lost put
      rw [tokensOf_append, tokensOf_map_plain, List.nil_append, tokensOf_append, List.append_assoc]
      exact (List.perm_append_comm_assoc _ _ _).trans (step.append_left (tokensOf old))

/-- No brackets come together, and none come together with calm letters in front. -/
theorem calm_append (rewritten : Rewritten letters found shown lost put) (front : List Letter)
    (calm : Calm (front ++ letters)) : Calm (front ++ shown) := by
  induction rewritten generalizing front with
  | done => exact calm
  | kept letter following step =>
      have further := step (front ++ [letter])
      rw [List.append_assoc, List.append_assoc] at further
      exact further calm
  | token token spelled following step =>
      rename_i old link rest found shown lost put
      have frontCalm : Calm front := calm.of_isInfix (List.prefix_append _ _).isInfix
      have restCalm : Calm rest := calm.of_isInfix
        ((List.suffix_append old rest).trans (List.suffix_append _ _)).isInfix
      apply frontCalm.append _ (.inr (by simp))
      exact (calm_token token).append (step [] restCalm) (.inl (by simp))
  | text spelled inside unbracketed nonempty following step =>
      rename_i old link rest found shown lost put
      have frontCalm : Calm front := calm.of_isInfix (List.prefix_append _ _).isInfix
      have restCalm : Calm rest := calm.of_isInfix
        ((List.suffix_append old rest).trans (List.suffix_append _ _)).isInfix
      have ownCalm : Calm (link.text.map .plain) := calm.of_isInfix
        (inside.trans ((List.prefix_append old rest).isInfix.trans
          (List.suffix_append _ _).isInfix))
      rcases unbracketed.map_plain with ⟨opens, closes⟩
      apply frontCalm.append _ (.inr ?_)
      · exact ownCalm.append (step [] restCalm) (.inl closes)
      · rwa [List.head?_append_of_ne_nil _ (by simpa using nonempty)]

theorem lost_subset (rewritten : Rewritten letters found shown lost put) :
    lost ⊆ tokensOf letters := by
  induction rewritten with
  | done => exact List.Subset.refl _
  | kept letter following step =>
      cases letter with
      | plain character => exact step
      | token token => exact List.Subset.trans step (List.subset_cons_self _ _)
  | token token spelled following step =>
      rw [tokensOf_append]
      exact List.append_subset.mpr ⟨List.subset_append_left _ _,
        List.Subset.trans step (List.subset_append_right _ _)⟩
  | text spelled inside unbracketed nonempty following step =>
      rw [tokensOf_append]
      exact List.append_subset.mpr ⟨List.subset_append_left _ _,
        List.Subset.trans step (List.subset_append_right _ _)⟩

theorem calm (rewritten : Rewritten letters found shown lost put) (calm : Calm letters) :
    Calm shown :=
  rewritten.calm_append [] calm

/-- The tokens that are lost are those that a reference holds. -/
theorem mem_lost_iff (rewritten : Rewritten letters found shown lost put)
    (legible : Legible letters) {token : Text} (isToken : token.IsToken) :
    token ∈ lost ↔ ∃ link ∈ found, token <:+: link.source := by
  induction rewritten with
  | done => simp
  | kept letter following step => exact step legible.tail
  | token other spelled following step =>
      rename_i old link rest found shown lost put
      have own := (legible.of_isInfix (List.prefix_append old rest).isInfix).isInfix_iff isToken
      have further := step (legible.of_isInfix (List.suffix_append old rest).isInfix)
      rw [List.mem_append, further, ← own, spelled, List.exists_mem_cons_iff]
  | text spelled inside unbracketed nonempty following step =>
      rename_i old link rest found shown lost put
      have own := (legible.of_isInfix (List.prefix_append old rest).isInfix).isInfix_iff isToken
      have further := step (legible.of_isInfix (List.suffix_append old rest).isInfix)
      rw [List.mem_append, further, ← own, spelled, List.exists_mem_cons_iff]

end Rewritten

/-! ## Images -/

/-- In a text without tokens, images give way to theirs. -/
theorem Replaced.exists_imaged {text shown : Text} {found : List Reference} {put : List Text}
    (replaced : Replaced ImageFits text found shown put) :
    ∃ others letters, Rewritten (text.map .plain) others letters [] put ∧ spell letters = shown := by
  induction replaced with
  | done => exact ⟨[], [], .done, rfl⟩
  | kept character following step =>
      rcases step with ⟨others, letters, rewritten, rfl⟩
      exact ⟨others, .plain character :: letters, .kept _ rewritten, rfl⟩
  | found fit following step =>
      rename_i image replacement own rest found shown put
      rcases step with ⟨others, letters, rewritten, rfl⟩
      rcases fit with ⟨_, ⟨rfl, rfl⟩ | ⟨number, rfl, rfl⟩⟩
      · refine ⟨others, image.source.map .plain ++ letters, ?_, ?_⟩
        · rw [List.map_append, List.nil_append]
          exact rewritten.keep _
        · rw [spell_append, spell_map_plain]
      · refine ⟨image :: others, .token (token .image number) :: letters, ?_, rfl⟩
        have gone := Rewritten.token (token .image number) (spell_map_plain image.source) rewritten
        rw [tokensOf_map_plain] at gone
        rwa [List.map_append]

/-! ## Links -/

/-- Links give way among letters as they do in the text that the letters make. What is pending is the
rest of a token that was begun. -/
theorem Replaced.exists_linked {text shown : Text} {found : List Reference} {put : List Text}
    (replaced : Replaced LinkFits text found shown put)
    (unbracketed : ∀ link ∈ found, isExternal link.target = false → Unbracketed link.text)
    {pending begun : Text} {letters : List Letter} (same : text = pending ++ spell letters)
    (begunIs : begun.IsToken) (isSuffix : pending <:+ begun)
    (areTokens : ∀ token ∈ tokensOf letters, token.IsToken)
    (unclosing : ∀ token ∈ tokensOf letters, ')' ∉ token) :
    ∃ others lost, Rewritten letters found others lost put ∧ shown = pending ++ spell others := by
  induction replaced generalizing pending begun letters with
  | done =>
      rcases List.nil_eq_append_iff.mp same with ⟨rfl, empty⟩
      rcases letters with _ | ⟨letter, letters⟩
      · exact ⟨[], [], .done, rfl⟩
      · rcases letter with character | token
        · cases empty
        · rw [spell_token, List.append_eq_nil_iff] at empty
          exact absurd empty.1 (areTokens token (by simp)).ne_nil
  | kept character following step =>
      rcases pending with _ | ⟨first, pending⟩
      · rcases letters with _ | ⟨letter, letters⟩
        · cases same
        rcases letter with other | token
        · rw [List.nil_append, spell_plain, List.cons.injEq] at same
          rcases same with ⟨rfl, same⟩
          rcases step unbracketed (same.trans (List.nil_append _).symm) begunIs (List.nil_suffix)
            areTokens unclosing with ⟨others, lost, rewritten, rfl⟩
          exact ⟨.plain character :: others, lost, .kept _ rewritten, rfl⟩
        · have tokenIs := areTokens token (by simp)
          rcases token with _ | ⟨first, token⟩
          · exact absurd rfl tokenIs.ne_nil
          rw [List.nil_append, spell_token, List.cons_append, List.cons.injEq] at same
          rcases same with ⟨rfl, same⟩
          rcases step unbracketed same tokenIs (List.suffix_cons _ _)
            (fun other mem => areTokens other (List.mem_cons_of_mem _ mem))
            (fun other mem => unclosing other (List.mem_cons_of_mem _ mem)) with
            ⟨others, lost, rewritten, rfl⟩
          exact ⟨.token (character :: token) :: others, lost, .kept _ rewritten, rfl⟩
      · rw [List.cons_append, List.cons.injEq] at same
        rcases same with ⟨rfl, same⟩
        rcases step unbracketed same begunIs ((List.suffix_cons _ _).trans isSuffix) areTokens
          unclosing with ⟨others, lost, rewritten, rfl⟩
        exact ⟨others, lost, rewritten, rfl⟩
  | found fit following step =>
      rename_i link replacement own rest found shown put
      rcases fit with ⟨written, nonempty, fit⟩
      rcases exists_split_of_written written same begunIs isSuffix areTokens unclosing with
        ⟨rfl, old, late, rfl, spelled, inside, rfl⟩
      have lateIs {P : Text → Prop} (all : ∀ token ∈ tokensOf (old ++ late), P token) :
          ∀ token ∈ tokensOf late, P token := by
        intro token mem
        apply all
        rw [tokensOf_append]
        exact List.mem_append_right _ mem
      rcases step (fun other mem => unbracketed other (List.mem_cons_of_mem _ mem)) rfl begunIs
        (List.nil_suffix) (lateIs areTokens) (lateIs unclosing) with ⟨others, lost, rewritten, rfl⟩
      rcases fit with ⟨internal, rfl, rfl⟩ | ⟨number, rfl, rfl⟩
      · refine ⟨link.text.map .plain ++ others, _, .text spelled inside
          (unbracketed link List.mem_cons_self internal) nonempty rewritten, ?_⟩
        simp
      · exact ⟨.token (token .link number) :: others, _, .token _ spelled rewritten, by simp⟩

end DocBinder.Placeholder
