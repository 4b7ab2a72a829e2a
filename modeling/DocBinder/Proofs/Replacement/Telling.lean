import DocBinder.Proofs.Replacement.Pieces
import DocBinder.Proofs.Replacement.Rewriting
import DocBinder.Proofs.Replacement.Trace

/-!
# What a document tells of its tokens

Piece by piece, a document without the brackets of tokens comes to a text in which the tokens that
were put there can be told apart. Each of them is there, except where a link was read across it.
-/

namespace DocBinder.Placeholder

/-- The links of a part of a document. -/
def Trace.links (trace : Trace) : List Reference :=
  trace.stages.flatMap Stage.links

/-- No text that takes the place of a link begins or ends with an opening bracket. -/
def KeepsApart (links : List Reference) : Prop :=
  ∀ link ∈ links, isExternal link.target = false → Unbracketed link.text

instance (links : List Reference) : Decidable (KeepsApart links) :=
  inferInstanceAs (Decidable (∀ link ∈ links, _))

/-- Tokens that are lost are those of images which a link was read across. -/
structure LostIn (links : List Reference) (lost : List Text) : Prop where
  mem_iff : ∀ token : Text, token.IsToken → (token ∈ lost ↔ ∃ link ∈ links, token <:+: link.source)
  areImages : ∀ text ∈ lost, ∃ number, text = token .image number

/-- A text in which tokens were put and some are lost again. -/
def Tells (shown : Text) (links : List Reference) (put : List Text) : Prop :=
  ∃ letters lost, spell letters = shown ∧ Legible letters ∧ (tokensOf letters ++ lost).Perm put ∧
    LostIn links lost

namespace LostIn

theorem nil : LostIn [] [] :=
  ⟨fun _ _ => by simp, fun _ mem => absurd mem List.not_mem_nil⟩

theorem append {links others : List Reference} {lost more : List Text} (lostIn : LostIn links lost)
    (moreIn : LostIn others more) : LostIn (links ++ others) (lost ++ more) := by
  constructor
  · intro token isToken
    rw [List.mem_append, lostIn.mem_iff token isToken, moreIn.mem_iff token isToken]
    constructor
    · rintro (⟨link, mem, stands⟩ | ⟨link, mem, stands⟩)
      · exact ⟨link, List.mem_append_left _ mem, stands⟩
      · exact ⟨link, List.mem_append_right _ mem, stands⟩
    · rintro ⟨link, mem, stands⟩
      rcases List.mem_append.mp mem with mem | mem
      · exact .inl ⟨link, mem, stands⟩
      · exact .inr ⟨link, mem, stands⟩
  · intro text mem
    rcases List.mem_append.mp mem with mem | mem
    · exact lostIn.areImages text mem
    · exact moreIn.areImages text mem

end LostIn

namespace Tells

variable {first second shown : Text} {links others : List Reference} {put own : List Text}

/-- Texts tell side by side what they tell alone, unless a bracket stands on either side of where
they meet. -/
theorem append (firstTells : Tells first links put) (secondTells : Tells second others own)
    (meets : first.getLast? ≠ some '[' ∨ second.head? ≠ some '[') :
    Tells (first ++ second) (links ++ others) (put ++ own) := by
  rcases firstTells with ⟨letters, lost, rfl, legible, perm, lostIn⟩
  rcases secondTells with ⟨behind, more, rfl, moreLegible, morePerm, moreIn⟩
  refine ⟨letters ++ behind, lost ++ more, spell_append _ _, ⟨?_, ?_⟩, ?_, lostIn.append moreIn⟩
  · apply legible.calm.append moreLegible.calm
    refine meets.imp ?_ ?_
    · intro notBracket isBracket
      rcases List.getLast?_eq_some_iff.mp isBracket with ⟨front, rfl⟩
      simp at notBracket
    · intro notBracket isBracket
      rcases List.head?_eq_some_iff.mp isBracket with ⟨rest, rfl⟩
      simp at notBracket
  · intro token mem
    rw [tokensOf_append] at mem
    rcases List.mem_append.mp mem with mem | mem
    · exact legible.areTokens token mem
    · exact moreLegible.areTokens token mem
  · rw [tokensOf_append]
    calc
      (tokensOf letters ++ tokensOf behind ++ (lost ++ more)).Perm
          (tokensOf letters ++ (lost ++ (tokensOf behind ++ more))) := by
        rw [List.append_assoc]
        exact (List.perm_append_comm_assoc _ _ _).append_left _
      List.Perm _ (put ++ own) := by
        rw [← List.append_assoc]
        exact perm.append morePerm

/-- A text without the brackets of tokens tells none. -/
theorem of_calm (calm : ¬ opening <:+: shown) : Tells shown [] [] := by
  refine ⟨shown.map .plain, [], spell_map_plain shown, ⟨calm_map_plain.mpr calm, ?_⟩, ?_, .nil⟩
  · intro token mem
    rw [tokensOf_map_plain] at mem
    cases mem
  · rw [tokensOf_map_plain]
    exact .refl _

theorem of_token (kind : TokenKind) (number : Nat) :
    Tells (token kind number) [] [token kind number] := by
  refine ⟨[.token (token kind number)], [], ?_, ⟨calm_token _, ?_⟩, .refl _, .nil⟩
  · rw [spell_token, spell_nil, List.append_nil]
  · intro token mem
    rw [List.mem_singleton.mp mem]
    exact isToken_token kind number

/-- A token stands in a text exactly if it was put there and no link was read across it. -/
theorem isInfix_iff (tells : Tells shown links put) (differ : put.Nodup) {token : Text}
    (isToken : token.IsToken) :
    token <:+: shown ↔ token ∈ put ∧ ∀ link ∈ links, ¬ token <:+: link.source := by
  rcases tells with ⟨letters, lost, rfl, legible, perm, lostIn⟩
  have apart := perm.nodup_iff.mpr differ
  have notLost : (∀ link ∈ links, ¬ token <:+: link.source) ↔ token ∉ lost := by
    rw [lostIn.mem_iff token isToken]
    simp only [not_exists, not_and]
  rw [legible.isInfix_iff isToken, notLost, ← perm.mem_iff, List.mem_append]
  constructor
  · intro mem
    exact ⟨.inl mem, List.disjoint_of_nodup_append apart mem⟩
  · rintro ⟨mem | mem, notMem⟩
    · exact mem
    · exact absurd mem notMem

theorem standsOnce (tells : Tells shown links put) (differ : put.Nodup) {token : Text}
    (isToken : token.IsToken) (stands : token <:+: shown) : token.StandsOnce shown := by
  rcases tells with ⟨letters, lost, rfl, legible, perm, _⟩
  have apart := perm.nodup_iff.mpr differ
  exact legible.standsOnce (List.Nodup.of_append_left apart) ((legible.isInfix_iff isToken).mp stands)

/-- What is lost are tokens of images. -/
theorem exists_image (tells : Tells shown links put) {token : Text} (isToken : token.IsToken)
    {link : Reference} (mem : link ∈ links) (holds : token <:+: link.source) :
    ∃ number, token = Placeholder.token .image number := by
  rcases tells with ⟨letters, lost, _, _, _, lostIn⟩
  exact lostIn.areImages token ((lostIn.mem_iff token isToken).mpr ⟨link, mem, holds⟩)

end Tells

/-! ## Pieces of a text -/

theorem Replaced.forall_mem_put {fits : Reference → Text → List Text → Prop} {holds : Text → Prop}
    (own : ∀ reference replacement put, fits reference replacement put → ∀ token ∈ put, holds token)
    {text shown : Text} {found : List Reference} {put : List Text}
    (replaced : Replaced fits text found shown put) : ∀ token ∈ put, holds token := by
  induction replaced with
  | done => exact fun _ mem => absurd mem List.not_mem_nil
  | kept character following step => exact step
  | found fit following step =>
      intro token mem
      rcases List.mem_append.mp mem with mem | mem
      · exact own _ _ _ fit token mem
      · exact step token mem

theorem Replaced.areImages {text shown : Text} {found : List Reference} {put : List Text}
    (replaced : Replaced ImageFits text found shown put) :
    ∀ text ∈ put, ∃ number, text = token .image number := by
  refine replaced.forall_mem_put ?_
  rintro image replacement put ⟨_, ⟨_, rfl⟩ | ⟨number, rfl, rfl⟩⟩ text mem
  · cases mem
  · exact ⟨number, List.mem_singleton.mp mem⟩

theorem Replaced.areLinks {text shown : Text} {found : List Reference} {put : List Text}
    (replaced : Replaced LinkFits text found shown put) :
    ∀ text ∈ put, ∃ number, text = token .link number := by
  refine replaced.forall_mem_put ?_
  rintro link replacement put ⟨_, _, ⟨_, _, rfl⟩ | ⟨number, rfl, rfl⟩⟩ text mem
  · cases mem
  · exact ⟨number, List.mem_singleton.mp mem⟩

/-- Plain text without the brackets of tokens tells those that are put for its images and links. -/
theorem tells_plain {written imaged linked : Text} {found : List Reference} {images links : List Text}
    (imagesGo : Replaced ImageFits written found imaged images)
    (linksGo : Replaced LinkFits imaged (linksIn imaged) linked links)
    (calm : ¬ opening <:+: written) (keepsApart : KeepsApart (linksIn imaged)) :
    Tells linked (linksIn imaged) (images ++ links) := by
  rcases imagesGo.exists_imaged with ⟨others, letters, imagesRewritten, rfl⟩
  have imagesPerm := imagesRewritten.perm
  rw [List.append_nil, tokensOf_map_plain, List.nil_append] at imagesPerm
  have areImages : ∀ text ∈ tokensOf letters, ∃ number, text = token .image number := by
    intro text mem
    exact imagesGo.areImages text (imagesPerm.mem_iff.mp mem)
  have legible : Legible letters := by
    refine ⟨imagesRewritten.calm (calm_map_plain.mpr calm), ?_⟩
    intro text mem
    rcases areImages text mem with ⟨number, rfl⟩
    exact isToken_token _ _
  have unclosing : ∀ text ∈ tokensOf letters, ')' ∉ text := by
    intro text mem
    rcases areImages text mem with ⟨number, rfl⟩
    exact not_mem_token (by decide) (by decide) _ _
  rcases linksGo.exists_linked keepsApart (List.nil_append _).symm (isToken_token .image 0)
    List.nil_suffix legible.areTokens unclosing with ⟨shown, lost, linksRewritten, rfl⟩
  have perm := linksRewritten.perm
  have total := perm.trans (imagesPerm.append_right links)
  refine ⟨shown, lost, rfl, ⟨linksRewritten.calm legible.calm, ?_⟩, total, ?_, ?_⟩
  · intro text mem
    rcases List.mem_append.mp (perm.subset (List.mem_append_left _ mem)) with mem | mem
    · exact legible.areTokens text mem
    · rcases linksGo.areLinks text mem with ⟨number, rfl⟩
      exact isToken_token _ _
  · intro text isToken
    exact linksRewritten.mem_lost_iff legible isToken
  · intro text mem
    exact areImages text (linksRewritten.lost_subset mem)

theorem tells_stage {piece : Bool × Text} {stage : Stage} {put : List Text}
    (fits : Stage.Fits piece stage put) (calm : ¬ opening <:+: piece.2)
    (keepsApart : KeepsApart stage.links) : Tells stage.shown stage.links put := by
  cases fits with
  | code source => exact .of_calm calm
  | plain imagesGo linksGo => exact tells_plain imagesGo linksGo calm keepsApart

/-- Inline code ends with a backtick, so that no brackets meet there. -/
theorem Tells.behind_code {source shown : Text} {links : List Reference} {put : List Text}
    (tells : Tells shown links put) (isCode : IsCode source) (calm : ¬ opening <:+: source) :
    Tells (source ++ shown) links put := by
  refine Tells.append (.of_calm calm) tells (.inl ?_)
  rcases isCode with ⟨inner, rfl, _⟩
  rw [← List.cons_append, List.getLast?_concat]
  decide

theorem tells_stages {pieces : List (Bool × Text)} (spaced : Spaced pieces) {stages : List Stage}
    {put : List Text} (puts : Puts Stage.Fits pieces stages put)
    (calm : ∀ piece ∈ pieces, ¬ opening <:+: piece.2)
    (keepsApart : ∀ stage ∈ stages, KeepsApart stage.links) :
    Tells (stages.flatMap Stage.shown) (stages.flatMap Stage.links) put := by
  induction spaced generalizing stages put with
  | done =>
      cases puts
      exact .of_calm (by decide)
  | last codeless =>
      cases puts with
      | cons fit following =>
          cases following
          have tells := tells_stage fit (calm _ List.mem_cons_self) (keepsApart _ List.mem_cons_self)
          simpa using tells
  | code isCode following step =>
      cases puts with
      | cons fit others =>
          cases fit
          have further := step others (fun piece mem => calm piece (List.mem_cons_of_mem _ mem))
            fun stage mem => keepsApart stage (List.mem_cons_of_mem _ mem)
          exact further.behind_code isCode (calm _ List.mem_cons_self)
  | between codeless isCode following step =>
      cases puts with
      | cons fit others =>
          cases others with
          | cons codeFit others =>
              cases codeFit
              have tells := tells_stage fit (calm _ List.mem_cons_self)
                (keepsApart _ List.mem_cons_self)
              have further := step others
                (fun piece mem => calm piece (List.mem_cons_of_mem _ (List.mem_cons_of_mem _ mem)))
                fun stage mem => keepsApart stage (List.mem_cons_of_mem _ (List.mem_cons_of_mem _ mem))
              have behind := further.behind_code isCode
                (calm _ (List.mem_cons_of_mem _ List.mem_cons_self))
              refine tells.append behind (.inr ?_)
              rcases isCode with ⟨inner, rfl, _⟩
              simp [Stage.shown]

theorem tells_trace {segment : Segment} {trace : Trace} {put : List Text}
    (fits : Trace.Fits segment trace put) (calm : ¬ opening <:+: segment.source)
    (keepsApart : KeepsApart trace.links) : Tells trace.shown trace.links put := by
  cases fits with
  | text pieces =>
      rename_i source stages
      refine tells_stages (spaced_codePieces source) pieces ?_ ?_
      · intro piece mem isInfix
        exact calm (isInfix.trans (codePieces_isInfix mem))
      · intro stage mem link linkMem
        exact keepsApart link (List.mem_flatMap.mpr ⟨stage, mem, linkMem⟩)
  | fence language body source => exact .of_calm calm
  | diagram language body source number => exact .of_token .diagram number

theorem tells_traces {segments : List Segment} {traces : List Trace} {put : List Text}
    (puts : Puts Trace.Fits segments traces put)
    (calm : ∀ segment ∈ segments, ¬ opening <:+: segment.source)
    (keepsApart : ∀ trace ∈ traces, KeepsApart trace.links) :
    Tells (Text.joinLines (traces.map Trace.shown)) (traces.flatMap Trace.links) put := by
  induction puts with
  | nil => exact .of_calm (by decide)
  | cons fit following step =>
      have tells := tells_trace fit (calm _ List.mem_cons_self) (keepsApart _ List.mem_cons_self)
      have further := step (fun segment mem => calm segment (List.mem_cons_of_mem _ mem))
        fun trace mem => keepsApart trace (List.mem_cons_of_mem _ mem)
      rename_i segment trace own segments traces put
      by_cases isLast : traces = []
      · subst isLast
        cases following
        simpa [Text.joinLines, Text.join] using tells
      · rw [List.map_cons, Text.joinLines_cons _ (by simpa using isLast)]
        have lineFeed : Tells ['\n'] [] [] := .of_calm (by decide)
        have joined := lineFeed.append further (.inl (by simp))
        exact tells.append joined (.inr (by simp))

end DocBinder.Placeholder
