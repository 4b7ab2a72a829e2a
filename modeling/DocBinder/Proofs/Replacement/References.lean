import DocBinder.Proofs.Replacement.Letters

/-!
# References and their tokens

A reference ends with a closing parenthesis, and the first closing bracket in it stands before an
opening parenthesis. Neither is so in a token. Hence a link that is found in a text that holds tokens
of images begins and ends outside all of them, and those inside it stand behind its text, where they
are lost when a token or the text takes the place of the link.
-/

namespace DocBinder.Placeholder

/-! ## How references are written -/

/-- A reference begins with some characters, then comes its text, and what leads away from it stands
in parentheses. -/
def Reference.Written (reference : Reference) (begins : Text) : Prop :=
  ']' ∉ reference.text ∧ ∃ inner,
    reference.source = begins ++ (reference.text ++ ']' :: '(' :: (inner ++ [')']))

theorem Reference.Written.ne_nil {reference : Reference} {begins : Text}
    (written : reference.Written begins) : reference.source ≠ [] := by
  rcases written with ⟨_, inner, same⟩
  rw [same]
  simp

theorem exists_split_of_afterTitle? {text after : Text} (ends : afterTitle? text = some after) :
    ∃ front, text = front ++ ')' :: after := by
  unfold afterTitle? at ends
  split at ends
  · cases ends
    exact ⟨[], rfl⟩
  · rename_i character rest _
    split at ends
    · split at ends
      · rename_i quoted opens
        split at ends
        · rename_i behind closes
          cases ends
          have blanks := List.takeWhile_append_dropWhile (p := Text.isBlank) (l := character :: rest)
          have title := List.takeWhile_append_dropWhile (p := (· != '"')) (l := quoted)
          rw [closes] at title
          rw [Text.trimStart] at opens
          rw [opens, ← title] at blanks
          rw [← blanks]
          refine ⟨(character :: rest).takeWhile Text.isBlank ++ '"' ::
            (quoted.takeWhile (· != '"') ++ ['"']), ?_⟩
          simp
        · cases ends
      · cases ends
    · cases ends
  · cases ends

theorem exists_split_of_referenceBody? {text shown target after : Text}
    (reads : referenceBody? text = some (shown, target, after)) :
    ']' ∉ shown ∧ ∃ inner, text = shown ++ ']' :: '(' :: (inner ++ ')' :: after) := by
  rw [referenceBody?] at reads
  dsimp only at reads
  split at reads
  · rename_i rest closes
    split at reads
    · cases reads
    · rcases Option.map_eq_some_iff.mp reads with ⟨behind, ends, same⟩
      rw [Prod.mk.injEq, Prod.mk.injEq] at same
      rcases same with ⟨rfl, rfl, rfl⟩
      constructor
      · intro mem
        have notClosing := List.mem_takeWhile_imp mem
        simp at notClosing
      · rcases exists_split_of_afterTitle? ends with ⟨front, split⟩
        have whole := List.prefix_iff_eq_append.mp (List.takeWhile_prefix (l := text) (· != ']'))
        have address := List.prefix_iff_eq_append.mp (List.takeWhile_prefix (l := rest)
          fun character => character != ')' && !Text.isBlank character)
        rw [split, ← List.append_assoc] at address
        rw [closes, ← address] at whole
        exact ⟨_, whole.symm⟩
  · cases reads

theorem written_of_referenceBody? (begins : Text) {text shown target after : Text}
    (reads : referenceBody? text = some (shown, target, after)) :
    Reference.Written ⟨shown, target, (begins ++ text).take ((begins ++ text).length - after.length)⟩
        begins ∧
      (begins ++ text).take ((begins ++ text).length - after.length) <+: begins ++ text := by
  rcases exists_split_of_referenceBody? reads with ⟨closed, inner, rfl⟩
  refine ⟨⟨closed, inner, ?_⟩, List.take_prefix _ _⟩
  have whole : begins ++ (shown ++ ']' :: '(' :: (inner ++ ')' :: after)) =
      begins ++ (shown ++ ']' :: '(' :: (inner ++ [')'])) ++ after := by
    simp
  rw [whole, List.length_append, Nat.add_sub_cancel, List.take_left]

theorem written_of_imageAt? {text : Text} {image : Reference} (finds : imageAt? text = some image) :
    image.Written ['!', '['] ∧ image.source <+: text := by
  unfold imageAt? at finds
  split at finds
  · rcases Option.map_eq_some_iff.mp finds with ⟨⟨shown, target, after⟩, reads, rfl⟩
    exact written_of_referenceBody? ['!', '['] reads
  · cases finds

theorem written_of_linkAt? {before : Option Char} {text : Text} {link : Reference}
    (finds : linkAt? before text = some link) :
    link.Written ['['] ∧ link.text ≠ [] ∧ link.source <+: text := by
  unfold linkAt? at finds
  split at finds
  · cases finds
  · split at finds
    · split at finds
      · rename_i reads
        split at finds
        · cases finds
        · rename_i isNonempty
          cases finds
          rcases written_of_referenceBody? ['['] reads with ⟨written, stands⟩
          exact ⟨written, by simpa using isNonempty, stands⟩
      · cases finds
    · cases finds

/-! ## Replacing references -/

/-- What is found in a text from left to right, each search starting where the last find ended; `skip`
counts the characters of a find still to pass. -/
def finds {α : Type} (find : Option Char → Text → Option α) (length : α → Nat)
    (before : Option Char) (skip : Nat) : Text → List α
  | [] => []
  | character :: rest =>
      match skip with
      | skip + 1 => finds find length (some character) skip rest
      | 0 =>
          match find before (character :: rest) with
          | some found => found :: finds find length (some character) (length found - 1) rest
          | none => finds find length (some character) 0 rest

/-- The links of a text. -/
def linksIn (text : Text) : List Reference :=
  finds linkAt? (·.source.length) none 0 text

/-- The images of a text. -/
def imagesIn (text : Text) : List Reference :=
  finds (fun _ => imageAt?) (·.source.length) none 0 text

/-- A text in which some references are replaced, and the tokens that this puts into it. -/
inductive Replaced (fits : Reference → Text → List Text → Prop) :
    Text → List Reference → Text → List Text → Prop
  | done : Replaced fits [] [] [] []
  | kept (character : Char) {rest : Text} {others : List Reference} {shown : Text}
      {put : List Text} (following : Replaced fits rest others shown put) :
      Replaced fits (character :: rest) others (character :: shown) put
  | found {reference : Reference} {replacement : Text} {own : List Text} {rest : Text}
      {others : List Reference} {shown : Text} {put : List Text}
      (fit : fits reference replacement own) (following : Replaced fits rest others shown put) :
      Replaced fits (reference.source ++ rest) (reference :: others) (replacement ++ shown)
        (own ++ put)

/-- What can take the place of an image. -/
def ImageFits (image : Reference) (replacement : Text) (put : List Text) : Prop :=
  image.Written ['!', '['] ∧ ((replacement = image.source ∧ put = []) ∨
    ∃ number, replacement = token .image number ∧ put = [replacement])

/-- What can take the place of a link. -/
def LinkFits (link : Reference) (replacement : Text) (put : List Text) : Prop :=
  link.Written ['['] ∧ link.text ≠ [] ∧
    ((isExternal link.target = false ∧ replacement = link.text ∧ put = []) ∨
      ∃ number, replacement = token .link number ∧ put = [replacement])

/-! ## Where links stand among letters -/

/-- A closing bracket before a parenthesis is not the first one of a token. -/
theorem not_closed_by_token {inner brackets more front rest : Text} (closed : ']' ∉ inner)
    (free : ']' ∉ brackets) (frontFree : ']' ∉ front) :
    brackets ++ (inner ++ [']', ']', ']']) ++ more ≠ front ++ ']' :: '(' :: rest := by
  intro same
  have whole : brackets ++ (inner ++ [']', ']', ']']) ++ more =
      (brackets ++ inner) ++ ']' :: ']' :: ']' :: more := by
    simp
  have innerFree : ']' ∉ brackets ++ inner := by
    rw [List.mem_append, not_or]
    exact ⟨free, closed⟩
  rw [whole] at same
  rcases Text.append_cons_inj innerFree frontFree same with ⟨_, behind⟩
  cases behind

/-- No link begins inside a token. -/
theorem not_link_of_suffix {token pending more front rest : Text} (isToken : token.IsToken)
    (isSuffix : pending <:+ token) (frontFree : ']' ∉ front) (nonempty : pending ≠ []) :
    pending ++ more ≠ '[' :: (front ++ ']' :: '(' :: rest) := by
  intro same
  rcases isToken with ⟨inner, rfl, notOpened, closed, _⟩
  rcases isSuffix with ⟨passed, split⟩
  rcases pending with _ | ⟨character, pending⟩
  · exact nonempty rfl
  rw [List.cons_append, List.cons.injEq] at same
  rcases same with ⟨rfl, same⟩
  have begins (brackets : Text) (free : ']' ∉ brackets)
      (isPending : pending = brackets ++ (inner ++ [']', ']', ']'])) : False := by
    rw [isPending] at same
    exact not_closed_by_token closed free frontFree same
  rcases passed with _ | ⟨first, passed⟩
  · rw [List.nil_append, List.cons.injEq] at split
    exact begins ['[', '['] (by decide) split.2
  rcases passed with _ | ⟨second, passed⟩
  · rw [List.cons_append, List.nil_append, List.cons.injEq, List.cons.injEq] at split
    exact begins ['['] (by decide) split.2.2
  rcases passed with _ | ⟨third, passed⟩
  · simp only [List.cons_append, List.nil_append, List.cons.injEq] at split
    exact begins [] (by decide) split.2.2.2
  · simp only [List.cons_append, List.cons.injEq] at split
    have mem : '[' ∈ inner ++ [']', ']', ']'] := by
      rw [← split.2.2.2]
      simp
    simp [notOpened] at mem

/-- Up to its first closing bracket, a link holds no token. -/
theorem exists_split_of_link {letters : List Letter} {front rest : Text}
    (areTokens : ∀ token ∈ tokensOf letters, token.IsToken) (frontFree : ']' ∉ front)
    (same : spell letters = front ++ ']' :: '(' :: rest) :
    ∃ behind, letters = front.map .plain ++ .plain ']' :: .plain '(' :: behind ∧
      spell behind = rest := by
  induction front generalizing letters with
  | nil =>
      rcases letters with _ | ⟨letter, letters⟩
      · cases same
      rcases letter with character | token
      · rw [spell_plain, List.nil_append, List.cons.injEq] at same
        rcases same with ⟨rfl, same⟩
        rcases letters with _ | ⟨next, letters⟩
        · cases same
        rcases next with character | token
        · rw [spell_plain, List.cons.injEq] at same
          rcases same with ⟨rfl, same⟩
          exact ⟨letters, rfl, same⟩
        · rcases areTokens token (by simp) with ⟨inner, rfl, _⟩
          cases same
      · rcases areTokens token (by simp) with ⟨inner, rfl, _⟩
        cases same
  | cons character front step =>
      rcases letters with _ | ⟨letter, letters⟩
      · cases same
      rcases letter with other | token
      · rw [spell_plain, List.cons_append, List.cons.injEq] at same
        rcases same with ⟨rfl, same⟩
        rw [List.mem_cons, not_or] at frontFree
        have others : ∀ token ∈ tokensOf letters, token.IsToken := areTokens
        rcases step others frontFree.2 same with ⟨behind, rfl, spelled⟩
        exact ⟨behind, rfl, spelled⟩
      · rcases areTokens token (by simp) with ⟨inner, rfl, _, closed, _⟩
        have whole : ['[', '[', '['] ++ (inner ++ [']', ']', ']']) ++ spell letters =
            (character :: front) ++ ']' :: '(' :: rest := by
          rw [← same]
          simp
        exact absurd whole (not_closed_by_token closed (by decide) frontFree)

/-- A text that ends with a parenthesis ends outside all tokens. -/
theorem exists_split_of_closed {letters : List Letter} {front rest : Text}
    (unclosing : ∀ token ∈ tokensOf letters, ')' ∉ token)
    (same : spell letters = front ++ ')' :: rest) :
    ∃ early late, letters = early ++ late ∧ spell early = front ++ [')'] ∧ spell late = rest := by
  induction letters generalizing front with
  | nil => simp at same
  | cons letter letters step =>
      rcases letter with character | token
      · rcases front with _ | ⟨other, front⟩
        · rw [spell_plain, List.nil_append, List.cons.injEq] at same
          rcases same with ⟨rfl, same⟩
          exact ⟨[.plain ')'], letters, rfl, rfl, same⟩
        · rw [spell_plain, List.cons_append, List.cons.injEq] at same
          rcases same with ⟨rfl, same⟩
          rcases step unclosing same with ⟨early, late, rfl, spelled, behind⟩
          exact ⟨.plain character :: early, late, rfl, by rw [spell_plain, spelled]; rfl, behind⟩
      · have own := unclosing token (by simp)
        have others : ∀ token ∈ tokensOf letters, ')' ∉ token := by
          intro other mem
          apply unclosing other
          rw [tokensOf_token]
          exact List.mem_cons_of_mem _ mem
        have behind (between : Text) (isFront : front = token ++ between)
            (split : spell letters = between ++ ')' :: rest) : ∃ early late,
              .token token :: letters = early ++ late ∧ spell early = front ++ [')'] ∧
                spell late = rest := by
          rcases step others split with ⟨early, late, rfl, spelled, behind⟩
          refine ⟨.token token :: early, late, rfl, ?_, behind⟩
          rw [spell_token, spelled, isFront, List.append_assoc]
        rw [spell_token] at same
        rcases List.append_eq_append_iff.mp same with ⟨between, isFront, split⟩ |
          ⟨between, isToken, split⟩
        · exact behind between isFront split
        · rcases between with _ | ⟨character, between⟩
          · exact behind [] (by rw [isToken, List.append_nil, List.append_nil]) split.symm
          · rw [List.cons_append, List.cons.injEq] at split
            rw [isToken, ← split.1] at own
            simp at own

/-- A link among letters begins and ends outside their tokens, and its text holds none of them. What is
pending is the rest of a token that was begun. -/
theorem exists_split_of_written {link : Reference} {pending begun rest : Text}
    {letters : List Letter} (linked : link.Written ['['])
    (same : link.source ++ rest = pending ++ spell letters) (begunIs : begun.IsToken)
    (isSuffix : pending <:+ begun) (areTokens : ∀ token ∈ tokensOf letters, token.IsToken)
    (unclosing : ∀ token ∈ tokensOf letters, ')' ∉ token) :
    pending = [] ∧ ∃ old late, letters = old ++ late ∧ spell old = link.source ∧
      link.text.map .plain <:+: old ∧ spell late = rest := by
  rcases linked with ⟨closed, inner, written⟩
  have whole : link.source ++ rest =
      '[' :: (link.text ++ ']' :: '(' :: (inner ++ ')' :: rest)) := by
    rw [written]
    simp
  rw [whole] at same
  have notPending : pending = [] := by
    by_contra begins
    exact not_link_of_suffix begunIs isSuffix closed begins same.symm
  refine ⟨notPending, ?_⟩
  have opened : ']' ∉ '[' :: link.text := by
    rw [List.mem_cons, not_or]
    exact ⟨by decide, closed⟩
  rw [notPending, List.nil_append, ← List.cons_append] at same
  rcases exists_split_of_link areTokens opened same.symm with ⟨behind, rfl, spelled⟩
  have behindUnclosing : ∀ token ∈ tokensOf behind, ')' ∉ token := by
    intro token mem
    apply unclosing
    simpa using mem
  rcases exists_split_of_closed behindUnclosing spelled with ⟨early, late, rfl, ends, spelled⟩
  refine ⟨('[' :: link.text).map .plain ++ .plain ']' :: .plain '(' :: early, late, ?_, ?_, ?_,
    spelled⟩
  · simp
  · simp only [spell_append, spell_map_plain, spell_plain, ends, written, List.cons_append,
      List.nil_append]
  · exact ⟨[.plain '['], .plain ']' :: .plain '(' :: early, by simp⟩

end DocBinder.Placeholder
