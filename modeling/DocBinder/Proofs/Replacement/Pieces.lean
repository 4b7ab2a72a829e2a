import DocBinder.Placeholder.Scan
import DocBinder.Proofs.Markdown.Sources

/-!
# The pieces of a document

A document is cut into texts and closed fences, and a text into inline code and what stands around
it. The pieces are parts of the document as it is written. No two pieces of plain text touch, and in
none of them stands inline code, not even together with the backtick of the code behind it.
-/

namespace DocBinder

namespace Placeholder

open Markdown

/-! ## Inline code -/

/-- Characters between two backticks, none of them a backtick or a line feed. -/
def IsCode (source : Text) : Prop :=
  ∃ inner, source = '`' :: (inner ++ ['`']) ∧ '`' ∉ inner ∧ '\n' ∉ inner

theorem inlineCode?_eq_some {text : Text} {length : Nat} (reads : inlineCode? text = some length) :
    ∃ inner rest, text = '`' :: (inner ++ '`' :: rest) ∧ '`' ∉ inner ∧ '\n' ∉ inner ∧
      length = inner.length + 2 := by
  unfold inlineCode? at reads
  split at reads
  · rename_i rest
    dsimp only at reads
    split at reads
    · rename_i behind closes
      cases reads
      have whole := List.prefix_iff_eq_append.mp (List.takeWhile_prefix (l := rest)
        fun character => character != '`' && character != '\n')
      rw [closes] at whole
      refine ⟨_, behind, congrArg ('`' :: ·) whole.symm, ?_, ?_, rfl⟩
      · intro mem
        have differs := List.mem_takeWhile_imp mem
        simp at differs
      · intro mem
        have differs := List.mem_takeWhile_imp mem
        simp at differs
    · cases reads
  · cases reads

/-- No inline code stands in a text. -/
def Codeless (text : Text) : Prop :=
  ∀ source, IsCode source → ¬ source <:+: text

theorem inlineCode?_of_isPrefix {source text : Text} (isCode : IsCode source)
    (isPrefix : source <+: text) : inlineCode? text ≠ none := by
  rcases isCode with ⟨inner, rfl, closed, unbroken⟩
  rcases isPrefix with ⟨rest, rfl⟩
  simp only [List.cons_append, List.append_assoc, List.nil_append, inlineCode?,
    Text.takeWhile_closed closed unbroken, List.drop_left]
  exact Option.some_ne_none _

/-- Where no inline code begins, none comes up by the character there. -/
theorem Codeless.cons {character : Char} {front rest : Text} (codeless : Codeless front)
    (isPlain : inlineCode? (character :: rest) = none) (isPrefix : front <+: rest) :
    Codeless (character :: front) := by
  intro source isCode isInfix
  rcases List.infix_cons_iff.mp isInfix with begins | isInfix
  · apply inlineCode?_of_isPrefix isCode (begins.trans _) isPlain
    exact List.cons_prefix_cons.mpr ⟨rfl, isPrefix⟩
  · exact codeless source isCode isInfix

theorem codeless_singleton (character : Char) : Codeless [character] := by
  rintro _ ⟨inner, rfl, _⟩ isInfix
  have short := isInfix.length_le
  simp at short

/-- A text cut into inline code and what stands around it. -/
inductive Pieced : Text → List (Bool × Text) → Prop
  | done : Pieced [] []
  | code {inner rest : Text} {pieces : List (Bool × Text)} (closed : '`' ∉ inner)
      (unbroken : '\n' ∉ inner) (following : Pieced rest pieces) :
      Pieced ('`' :: (inner ++ '`' :: rest)) ((true, '`' :: (inner ++ ['`'])) :: pieces)
  | plain {character : Char} {rest : Text} {pieces : List (Bool × Text)}
      (isPlain : inlineCode? (character :: rest) = none) (following : Pieced rest pieces) :
      Pieced (character :: rest) (addChar character pieces)

theorem pieced_codePieces (skip : Nat) (text : Text) :
    Pieced (text.drop skip) (codePieces skip text) := by
  induction text generalizing skip with
  | nil =>
      rw [List.drop_nil]
      exact .done
  | cons character rest step =>
      cases skip with
      | succ skip => exact step skip
      | zero =>
          cases reads : inlineCode? (character :: rest) with
          | some length =>
              rw [codePieces, reads]
              rcases inlineCode?_eq_some reads with ⟨inner, behind, same, closed, unbroken, rfl⟩
              rw [List.cons.injEq] at same
              rcases same with ⟨rfl, rfl⟩
              have following := step (inner.length + 1)
              have passed : (inner ++ '`' :: behind).drop (inner.length + 1) = behind := by
                rw [← List.drop_drop, List.drop_left]
                rfl
              have taken : ('`' :: (inner ++ '`' :: behind)).take (inner.length + 2) =
                  '`' :: (inner ++ ['`']) := by
                rw [List.take_succ_cons, List.take_length_add_append]
                rfl
              rw [passed] at following
              dsimp only
              rw [taken]
              exact .code closed unbroken following
          | none =>
              rw [codePieces, reads]
              exact .plain reads (step 0)

namespace Pieced

variable {text : Text} {pieces : List (Bool × Text)}

theorem addChar_joined (character : Char) (pieces : List (Bool × Text)) :
    (addChar character pieces).flatMap Prod.snd = character :: pieces.flatMap Prod.snd := by
  unfold addChar
  split <;> rfl

theorem joined (pieced : Pieced text pieces) : pieces.flatMap Prod.snd = text := by
  induction pieced with
  | done => rfl
  | code closed unbroken following step => simp [step]
  | plain isPlain following step => rw [addChar_joined, step]

theorem isInfix (pieced : Pieced text pieces) {piece : Bool × Text} (mem : piece ∈ pieces) :
    piece.2 <:+: text := by
  rcases List.append_of_mem mem with ⟨front, back, rfl⟩
  rw [← pieced.joined, List.flatMap_append, List.flatMap_cons]
  exact ⟨_, _, by rw [List.append_assoc]⟩

theorem isCode (pieced : Pieced text pieces) {source : Text} (mem : (true, source) ∈ pieces) :
    IsCode source := by
  induction pieced with
  | done => cases mem
  | code closed unbroken following step =>
      rcases List.mem_cons.mp mem with same | mem
      · cases same
        exact ⟨_, rfl, closed, unbroken⟩
      · exact step mem
  | plain isPlain following step =>
      unfold addChar at mem
      split at mem
      · apply step
        simpa using mem
      · apply step
        simpa using mem

end Pieced

/-- Pieces of which no two plain ones touch and in which no inline code is overlooked. -/
inductive Spaced : List (Bool × Text) → Prop
  | done : Spaced []
  | last {text : Text} (codeless : Codeless text) : Spaced [(false, text)]
  | code {source : Text} {pieces : List (Bool × Text)} (isCode : IsCode source)
      (following : Spaced pieces) : Spaced ((true, source) :: pieces)
  | between {text source : Text} {pieces : List (Bool × Text)}
      (codeless : Codeless (text ++ ['`'])) (isCode : IsCode source) (following : Spaced pieces) :
      Spaced ((false, text) :: (true, source) :: pieces)

theorem Pieced.spaced {text : Text} {pieces : List (Bool × Text)} (pieced : Pieced text pieces) :
    Spaced pieces := by
  induction pieced with
  | done => exact .done
  | code closed unbroken following step => exact .code ⟨_, rfl, closed, unbroken⟩ step
  | plain isPlain following step =>
      rename_i character rest pieces
      have joined := following.joined
      cases step with
      | done => exact .last (codeless_singleton character)
      | last codeless =>
          refine .last (codeless.cons isPlain ?_)
          simp only [List.flatMap_cons, List.flatMap_nil, List.append_nil] at joined
          exact ⟨[], by rw [joined, List.append_nil]⟩
      | code isCode further =>
          refine .between ((codeless_singleton '`').cons isPlain ?_) isCode further
          rcases isCode with ⟨inner, rfl, _⟩
          exact ⟨_, joined⟩
      | between codeless isCode further =>
          refine .between (codeless.cons isPlain ?_) isCode further
          rename_i plain source behind
          rcases isCode with ⟨inner, rfl, _⟩
          have whole : plain ++ ['`'] ++ (inner ++ ['`'] ++ behind.flatMap Prod.snd) = rest := by
            rw [← joined]
            simp
          exact ⟨_, whole⟩

theorem spaced_codePieces (text : Text) : Spaced (codePieces 0 text) :=
  (pieced_codePieces 0 text).spaced

theorem codePieces_isInfix {text : Text} {piece : Bool × Text} (mem : piece ∈ codePieces 0 text) :
    piece.2 <:+: text :=
  (pieced_codePieces 0 text).isInfix mem

/-! ## Segments -/

/-- The segment that a part of the lines makes. -/
def ofPart : List Text ⊕ Segment → Segment
  | .inl lines => .text (Text.joinLines lines)
  | .inr segment => segment

/-- Lines cut into texts and closed fences. -/
inductive Parted : List Text → List (List Text ⊕ Segment) → Prop
  | done : Parted [] []
  | text {lines rest : List Text} {parts : List (List Text ⊕ Segment)} (nonempty : lines ≠ [])
      (following : Parted rest parts) : Parted (lines ++ rest) (.inl lines :: parts)
  | fence {line closing : Text} {body rest : List Text} {parts : List (List Text ⊕ Segment)}
      (opens : opensFence line = true) (inside : ∀ other ∈ body, closesFence other = false)
      (closes : closesFence closing = true) (following : Parted rest parts) :
      Parted (line :: (body ++ closing :: rest))
        (.inr (.fence (fenceLanguage? line) (Text.joinLines body)
          (Text.joinLines (line :: body ++ [closing]))) :: parts)

theorem Parted.addLine {lines : List Text} {parts : List (List Text ⊕ Segment)} (line : Text)
    (parted : Parted lines parts) : Parted (line :: lines) (addLine line parts) := by
  cases parted with
  | done => exact .text (List.cons_ne_nil line []) .done
  | text nonempty following => exact .text (List.cons_ne_nil line _) following
  | fence opens inside closes following =>
      exact .text (List.cons_ne_nil line []) (.fence opens inside closes following)

theorem parted_segmentLines (skip : Nat) (lines : List Text) :
    Parted (lines.drop skip) (segmentLines skip lines) := by
  induction lines generalizing skip with
  | nil =>
      rw [List.drop_nil]
      exact .done
  | cons line after step =>
      cases skip with
      | succ skip => exact step skip
      | zero =>
          rw [segmentLines]
          split
          · rename_i body closing closes
            split at closes
            · rename_i opens
              rcases fenceBody?_eq_some closes with ⟨rest, rfl, inside, isClosing⟩
              have following := step (body.length + 1)
              have passed : (body ++ closing :: rest).drop (body.length + 1) = rest := by
                rw [← List.drop_drop, List.drop_left]
                rfl
              rw [passed] at following
              exact .fence opens inside isClosing following
            · cases closes
          · exact (step 0).addLine line

theorem segments_eq_map (markdown : Text) :
    segments markdown = (segmentLines 0 (Text.lines markdown)).map ofPart :=
  rfl

/-- Segments are parts of the document as it is written. -/
theorem segments_isInfix {markdown : Text} {segment : Segment} (mem : segment ∈ segments markdown) :
    segment.source <:+: markdown := by
  have parted := parted_segmentLines 0 (Text.lines markdown)
  have within {lines : List Text} {parts : List (List Text ⊕ Segment)} (parted : Parted lines parts) :
      ∀ part ∈ parts, ∃ own ≠ [], own <:+: lines ∧ (ofPart part).source = Text.joinLines own := by
    induction parted with
    | done => exact fun _ mem => absurd mem List.not_mem_nil
    | text nonempty following step =>
        intro part mem
        rcases List.mem_cons.mp mem with rfl | mem
        · exact ⟨_, nonempty, (List.prefix_append _ _).isInfix, rfl⟩
        · rcases step part mem with ⟨own, ownNonempty, isInfix, same⟩
          exact ⟨own, ownNonempty, isInfix.trans (List.suffix_append _ _).isInfix, same⟩
    | fence opens inside closes following step =>
        rename_i line closing body rest parts
        intro part mem
        rcases List.mem_cons.mp mem with rfl | mem
        · refine ⟨line :: body ++ [closing], by simp, ⟨[], rest, by simp⟩, rfl⟩
        · rcases step part mem with ⟨own, ownNonempty, isInfix, same⟩
          refine ⟨own, ownNonempty, isInfix.trans ?_, same⟩
          exact ⟨line :: (body ++ [closing]), [], by simp⟩
  rcases List.mem_map.mp (segments_eq_map markdown ▸ mem) with ⟨part, partMem, rfl⟩
  rcases within parted part partMem with ⟨own, nonempty, isInfix, same⟩
  rw [same]
  have joined := Text.joinLines_isInfix nonempty isInfix
  rwa [List.drop_zero, Text.joinLines_lines] at joined

end Placeholder

end DocBinder
