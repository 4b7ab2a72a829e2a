import DocBinder.Proofs.Content.Compile
import DocBinder.Proofs.Replacement.Render

/-!
# Content ends its lines

The text of what a document puts into a buffer ends with a line feed, wherever its phases end. No
token holds one, so that a token never stands across the end of a document's units and the beginning
of what comes behind them.
-/

namespace DocBinder

open Docs

namespace Text

/-- A text is empty or ends with a line feed. -/
def EndsLine (text : Text) : Prop :=
  ∀ last ∈ text.getLast?, last = '\n'

variable {first second token : Text}

theorem endsLine_nil : EndsLine [] := by
  simp [EndsLine]

theorem endsLine_append_lineFeed (front : Text) : EndsLine (front ++ ['\n']) := by
  simp [EndsLine]

theorem EndsLine.append (ends : first.EndsLine) (further : second.EndsLine) :
    (first ++ second).EndsLine := by
  intro last isLast
  rw [List.getLast?_append, Option.mem_def, Option.or_eq_some_iff] at isLast
  rcases isLast with isLast | ⟨_, isLast⟩
  · exact further last isLast
  · exact ends last isLast

theorem EndsLine.of_append (ends : (first ++ second).EndsLine) (nonempty : second ≠ []) :
    second.EndsLine := by
  rwa [EndsLine, List.getLast?_append_of_ne_nil _ nonempty] at ends

theorem EndsLine.append_left (ends : second.EndsLine) (nonempty : second ≠ []) :
    (first ++ second).EndsLine := by
  rwa [EndsLine, List.getLast?_append_of_ne_nil _ nonempty]

theorem StandsAt.getElem? {text : Text} {place distance : Nat} (stands : token.StandsAt text place)
    (below : distance < token.length) : text[place + distance]? = token[distance]? := by
  rcases stands with ⟨rest, split⟩
  rw [← List.getElem?_drop, ← split, List.getElem?_append_left below]

theorem IsToken.not_endsLine (isToken : token.IsToken) : ¬ token.EndsLine := by
  intro ends
  rcases isToken with ⟨inner, rfl, _⟩
  have closes := ends ']' (by
    rw [← List.cons_append, ← List.cons_append, ← List.cons_append, List.getLast?_append]
    rfl)
  exact absurd closes (by decide)

/-- A token stands before the end of a line or behind it. -/
theorem IsToken.within_or_behind {place : Nat} (isToken : token.IsToken) (ends : first.EndsLine)
    (stands : token.StandsAt (first ++ second) place) :
    place + token.length ≤ first.length ∨ first.length ≤ place := by
  by_contra across
  simp only [not_or, Nat.not_le] at across
  have last : first.getLast? = first[first.length - 1]? := List.getLast?_eq_getElem?
  have inside : first.length - 1 - place < token.length := by omega
  have same := stands.getElem? inside
  rw [List.getElem?_append_left (by omega),
    show place + (first.length - 1 - place) = first.length - 1 by omega, ← last] at same
  have isBreak := ends token[first.length - 1 - place] (by
    rw [same]
    exact List.getElem?_eq_getElem inside)
  apply isToken.lineFeed_not_mem
  rw [← isBreak]
  exact List.getElem_mem inside

end Text

/-! ## What compiles -/

namespace Docs

theorem endsLine_flatMap {α : Type} {items : List α} {units : α → Buffer}
    (each : ∀ item ∈ items, (units item).text.EndsLine) :
    (Buffer.text (items.flatMap units)).EndsLine := by
  induction items with
  | nil => exact Text.endsLine_nil
  | cons item rest step =>
      rw [List.flatMap_cons, Buffer.text_append]
      apply Text.EndsLine.append (each item List.mem_cons_self)
      exact step fun other mem => each other (List.mem_cons_of_mem _ mem)

theorem endsLine_tableOf (rows : List (List Buffer)) : (tableOf rows).text.EndsLine := by
  have inside : (tableOf rows).text = Buffer.text (rows.flatMap fun row =>
      .rowStart :: row.flatMap fun cell => .cellStart :: (cell ++ [BodyUnit.lineFeed])) := by
    simp [tableOf, Buffer.text_cons, BodyUnit.char?]
  rw [inside]
  apply endsLine_flatMap
  intro row _
  rw [Buffer.text_cons]
  apply endsLine_flatMap
  intro cell _
  rw [Buffer.text_cons, Buffer.text_append]
  exact Text.endsLine_append_lineFeed _

theorem endsLine_lineFeed_tableOf (rows : List (List Buffer)) :
    (Buffer.text (.lineFeed :: tableOf rows)).EndsLine := by
  rw [Buffer.text_cons]
  exact (Text.endsLine_append_lineFeed []).append (endsLine_tableOf rows)

end Docs

section Appends

variable {requests : List Request} {specs : List TableSpec} (appends : Appends requests specs)
  (ends : ∀ request ∈ requests, request.insertedText.EndsLine)

include appends ends

theorem Appends.endsLine_empty : (Buffer.text (requests.flatMap Request.units)).EndsLine := by
  induction appends with
  | nil => exact Text.endsLine_nil
  | text text following step =>
      rw [List.flatMap_cons, Buffer.text_append, Request.units, Buffer.text_chars]
      apply Text.EndsLine.append (ends _ List.mem_cons_self)
      exact step fun request mem => ends request (List.mem_cons_of_mem _ mem)
  | table spansFit following step =>
      rw [List.flatMap_cons, Buffer.text_append, Request.units, emptyTable_eq_tableOf]
      apply Text.EndsLine.append (endsLine_lineFeed_tableOf _)
      exact step fun request mem => ends request (List.mem_cons_of_mem _ mem)

theorem Appends.endsLine_whole : (contentUnits requests specs).text.EndsLine := by
  induction appends with
  | nil => exact Text.endsLine_nil
  | text text following step =>
      rw [contentUnits, Buffer.text_append, Buffer.text_chars]
      apply Text.EndsLine.append (ends _ List.mem_cons_self)
      exact step fun request mem => ends request (List.mem_cons_of_mem _ mem)
  | table spansFit following step =>
      rw [contentUnits, Buffer.text_append, units_eq_tableOf]
      apply Text.EndsLine.append (endsLine_lineFeed_tableOf _)
      exact step fun request mem => ends request (List.mem_cons_of_mem _ mem)

end Appends

theorem Block.endsLine_contribution {number : Nat} {block : Block} {contribution : Contribution}
    (contributes : block.contribution? number = some contribution) :
    contribution.request.insertedText.EndsLine := by
  cases block <;> cases contributes <;>
    simp [Request.insertedText, appendText, Text.EndsLine, List.getLast?_append]

theorem endsLine_compileFrom {number offset : Nat} {blocks : List Block} :
    ∀ request ∈ (compileFrom number offset blocks).requests, request.insertedText.EndsLine := by
  induction blocks generalizing number offset with
  | nil => exact fun _ mem => absurd mem List.not_mem_nil
  | cons block rest step =>
      cases contributes : block.contribution? number with
      | none =>
          simp only [compileFrom, contributes]
          exact step
      | some contribution =>
          simp only [compileFrom, contributes]
          intro request mem
          rcases List.mem_cons.mp mem with rfl | mem
          · exact Block.endsLine_contribution contributes
          · exact step request mem

/-! ## Replaced tokens -/

/-- Replacing tokens leaves the end of a text alone: no token holds the line feed there. -/
theorem Renders.endsLine {property : Target → Prop} {buffer shown : Buffer}
    (areTokens : ∀ target, property target → target.token.IsToken)
    (renders : Renders property buffer shown) (ends : buffer.text.EndsLine) :
    shown.text.EndsLine := by
  have goesOn : shown.text.EndsLine ∧ (buffer.text ≠ [] → shown.text ≠ []) := by
    induction renders with
    | done rest => exact ⟨ends, fun nonempty => nonempty⟩
    | piece holds spans shows following step =>
        rename_i gap covered rest units shown target
        rw [Buffer.text_append, Buffer.text_append] at ends
        have rest_ne_nil : rest.text ≠ [] := by
          intro isNil
          have isToken := areTokens target holds
          rw [isNil, List.append_nil, spans.spelled] at ends
          exact isToken.not_endsLine (ends.of_append isToken.ne_nil)
        have restEnds : rest.text.EndsLine := by
          rw [← List.append_assoc] at ends
          exact ends.of_append rest_ne_nil
        rcases step restEnds with ⟨shownEnds, nonempty⟩
        have shown_ne_nil := nonempty rest_ne_nil
        rw [Buffer.text_append, Buffer.text_append, ← List.append_assoc]
        exact ⟨shownEnds.append_left shown_ne_nil, fun _ => by simp [shown_ne_nil]⟩
  exact goesOn.1

end DocBinder
