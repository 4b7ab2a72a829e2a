import DocBinder.Proofs.Markdown.Code
import DocBinder.Proofs.Replacement.Pieces
import DocBinder.Proofs.Replacement.Trace
import DocBinder.Proofs.Replacement.Traded

/-!
# Backticks around tokens

No token holds a backtick, so that putting tokens into plain text leaves no more backticks in a line
than there were before, as long as no line is joined to another one in which a backtick is left over.
So the inline code of the lines stays what it was.
-/

namespace DocBinder.Placeholder

open Markdown

/-- In each line of a text stands a single backtick at most. -/
def Lone (text : Text) : Prop :=
  ∀ line ∈ Text.lines text, line.count '`' ≤ 1

theorem lone_of_single {text : Text} (single : text.count '`' ≤ 1) : Lone text := by
  intro line mem
  exact Nat.le_trans ((Text.isInfix_of_mem_lines mem).sublist.count_le '`') single

theorem Codeless.lone {text : Text} (codeless : Codeless text) : Lone text := by
  intro line mem
  by_contra several
  have unbroken := Text.not_mem_of_mem_splitOn mem
  have isInfix := Text.isInfix_of_mem_lines mem
  have first : '`' ∈ line := List.count_pos_iff.mp (by omega)
  rcases List.eq_append_cons_of_mem first with ⟨before, behind, rfl, free⟩
  rw [List.count_append, List.count_cons_self, List.count_eq_zero_of_not_mem free] at several
  have second : '`' ∈ behind := List.count_pos_iff.mp (by omega)
  rcases List.eq_append_cons_of_mem second with ⟨inner, rest, rfl, closed⟩
  apply codeless _ ⟨inner, rfl, closed, _⟩
  · exact List.IsInfix.trans ⟨before, rest, by simp⟩ isInfix
  · intro mem
    apply unbroken
    simp [mem]

/-! ## Replacing references -/

/-- What takes the place of a reference is a part of it or a token. -/
def Takes (reference : Reference) (replacement : Text) : Prop :=
  replacement <:+: reference.source ∨ ∃ kind number, replacement = token kind number

theorem ImageFits.takes {image : Reference} {replacement : Text} {put : List Text}
    (fit : ImageFits image replacement put) : Takes image replacement := by
  rcases fit with ⟨_, ⟨rfl, _⟩ | ⟨number, rfl, _⟩⟩
  · exact .inl List.infix_rfl
  · exact .inr ⟨.image, number, rfl⟩

theorem LinkFits.takes {link : Reference} {replacement : Text} {put : List Text}
    (fit : LinkFits link replacement put) : Takes link replacement := by
  rcases fit with ⟨⟨_, inner, source⟩, _, ⟨_, rfl, _⟩ | ⟨number, rfl, _⟩⟩
  · rw [Takes, source]
    exact .inl ⟨['['], _, List.append_assoc _ _ _⟩
  · exact .inr ⟨.link, number, rfl⟩

theorem Takes.not_mem {reference : Reference} {replacement : Text} {character : Char}
    (takes : Takes reference replacement) (notLetter : character ∉ tokenLetters)
    (notDigit : character.isDigit = false) (absent : character ∉ reference.source) :
    character ∉ replacement := by
  rcases takes with isInfix | ⟨kind, number, rfl⟩
  · exact fun mem => absent (isInfix.subset mem)
  · exact not_mem_token notLetter notDigit kind number

theorem Takes.count_le {reference : Reference} {replacement : Text}
    (takes : Takes reference replacement) : replacement.count '`' ≤ reference.source.count '`' := by
  rcases takes with isInfix | ⟨kind, number, rfl⟩
  · exact isInfix.sublist.count_le '`'
  · rw [List.count_eq_zero_of_not_mem (not_mem_token (by decide) (by decide) kind number)]
    exact Nat.zero_le _

namespace Replaced

variable {fits : Reference → Text → List Text → Prop} {text shown : Text} {found : List Reference}
  {put : List Text}

theorem snoc (replaced : Replaced fits text found shown put) (character : Char) :
    Replaced fits (text ++ [character]) found (shown ++ [character]) put := by
  induction replaced with
  | done => exact .kept character .done
  | kept other following step => exact .kept other step
  | found fit following step =>
      rw [List.append_assoc, List.append_assoc]
      exact .found fit step

variable (takes : ∀ reference replacement own, fits reference replacement own →
  Takes reference replacement)

include takes

/-- A character that is in no token does not come up. -/
theorem not_mem {character : Char} (notLetter : character ∉ tokenLetters)
    (notDigit : character.isDigit = false) (replaced : Replaced fits text found shown put)
    (absent : character ∉ text) : character ∉ shown := by
  induction replaced with
  | done => exact absent
  | kept other following step =>
      rw [List.mem_cons, not_or] at absent ⊢
      exact ⟨absent.1, step absent.2⟩
  | found fit following step =>
      rw [List.mem_append, not_or] at absent ⊢
      exact ⟨(takes _ _ _ fit).not_mem notLetter notDigit absent.1, step absent.2⟩

/-- Where no reference goes on in the next line, no line gets more backticks. -/
theorem lines_count (replaced : Replaced fits text found shown put)
    (inLine : ∀ reference ∈ found, '\n' ∉ reference.source) :
    List.Forall₂ (fun old new => new.count '`' ≤ old.count '`') (Text.lines text)
      (Text.lines shown) := by
  let trades (source replacement : Text) : Prop :=
    ('\n' ∉ source ∧ '\n' ∉ replacement) ∧ replacement.count '`' ≤ source.count '`'
  have traded : Traded trades text shown := by
    apply replaced.traded
    intro reference mem replacement own fit
    have unbroken := inLine reference mem
    have stays := (takes _ _ _ fit).not_mem (by decide) (by decide) unbroken
    exact .inr ⟨⟨unbroken, stays⟩, (takes _ _ _ fit).count_le⟩
  have feeds : Without '\n' trades := fun _ _ fit => fit.1
  exact (traded.lines feeds).imp fun _ _ line => line.count_le fun _ _ fit => fit.2

theorem lone (replaced : Replaced fits text found shown put)
    (inLine : ∀ reference ∈ found, '\n' ∉ reference.source) (isLone : Lone text) : Lone shown := by
  have pairs := replaced.lines_count takes inLine
  rw [Lone] at isLone ⊢
  generalize Text.lines text = old at isLone pairs
  generalize Text.lines shown = new at pairs
  induction pairs with
  | nil => exact fun _ mem => absurd mem List.not_mem_nil
  | cons head tail step =>
      intro line mem
      rcases List.mem_cons.mp mem with rfl | mem
      · exact Nat.le_trans head (isLone _ List.mem_cons_self)
      · exact step (fun other otherMem => isLone other (List.mem_cons_of_mem _ otherMem)) line mem

end Replaced

/-! ## The lines of a text -/

/-- What a piece is as it is written. -/
def Stage.written : Stage → Text
  | .code source => source
  | .plain written _ _ => written

/-- Where a backtick stands in a piece, no reference in it goes on in the next line. -/
def Stage.InLine (stage : Stage) : Prop :=
  '`' ∈ stage.written → ∀ reference ∈ stage.images ++ stage.links, '\n' ∉ reference.source

instance (stage : Stage) : Decidable stage.InLine :=
  inferInstanceAs (Decidable (_ → _))

/-- Plain text that leaves no more than one backtick in a line does so with tokens in it. -/
theorem lone_plain {written imaged linked tail : Text} {images links : List Text}
    (imagesGo : Replaced ImageFits written (imagesIn written) imaged images)
    (linksGo : Replaced LinkFits imaged (linksIn imaged) linked links)
    (inLine : (Stage.plain written imaged linked).InLine) (few : tail = [] ∨ tail = ['`'])
    (isLone : Lone (written ++ tail)) : Lone (linked ++ tail) := by
  have imageTakes (image : Reference) (replacement : Text) (own : List Text) :
      ImageFits image replacement own → Takes image replacement := ImageFits.takes
  have linkTakes (link : Reference) (replacement : Text) (own : List Text) :
      LinkFits link replacement own → Takes link replacement := LinkFits.takes
  by_cases marked : '`' ∈ written
  · have unbroken := inLine marked
    have imagesInLine : ∀ image ∈ imagesIn written, '\n' ∉ image.source :=
      fun image mem => unbroken image (List.mem_append_left _ mem)
    have linksInLine : ∀ link ∈ linksIn imaged, '\n' ∉ link.source :=
      fun link mem => unbroken link (List.mem_append_right _ mem)
    rcases few with rfl | rfl
    · rw [List.append_nil] at isLone ⊢
      exact linksGo.lone linkTakes linksInLine (imagesGo.lone imageTakes imagesInLine isLone)
    · exact (linksGo.snoc '`').lone linkTakes linksInLine
        ((imagesGo.snoc '`').lone imageTakes imagesInLine isLone)
  · have imagedFree := imagesGo.not_mem imageTakes (by decide) (by decide) marked
    have linkedFree := linksGo.not_mem linkTakes (by decide) (by decide) imagedFree
    apply lone_of_single
    rw [List.count_append, List.count_eq_zero_of_not_mem linkedFree]
    rcases few with rfl | rfl <;> decide

/-- In each line of a text all inline code is known. -/
def LinesCoded (isKnown : Text → Prop) (text : Text) : Prop :=
  ∀ line ∈ Text.lines text, ∃ codes, Coded line codes ∧ ∀ code ∈ codes, isKnown code

namespace LinesCoded

variable {isKnown : Text → Prop} {plain rest : Text}

theorem of_lone (isLone : Lone plain) : LinesCoded isKnown plain :=
  fun line mem => ⟨[], .plain (isLone line mem), fun _ mem => absurd mem List.not_mem_nil⟩

theorem behind_plain (isLone : Lone (plain ++ ['`'])) (coded : LinesCoded isKnown rest) :
    LinesCoded isKnown (plain ++ rest) := by
  rcases Text.exists_splitOn_append '\n' plain rest with
    ⟨front, last, head, tail, plainSplit, restSplit, split⟩
  have markedSplit : Text.lines (plain ++ ['`']) = front ++ [last ++ ['`']] := by
    rcases Text.exists_splitOn_append '\n' plain ['`'] with
      ⟨_, _, mark, none, otherSplit, markSplit, markedSplit⟩
    rw [plainSplit] at otherSplit
    rcases List.append_inj' otherSplit rfl with ⟨rfl, same⟩
    cases same
    cases markSplit
    exact markedSplit
  rw [Lone, markedSplit] at isLone
  have free : '`' ∉ last := by
    have single := isLone (last ++ ['`']) (by simp)
    rw [List.count_append, List.count_singleton_self] at single
    exact List.count_eq_zero.mp (by omega)
  rw [LinesCoded, Text.lines, restSplit] at coded
  rw [LinesCoded, Text.lines, split]
  intro line mem
  rcases List.mem_append.mp mem with mem | mem
  · refine ⟨[], .plain ?_, fun _ mem => absurd mem List.not_mem_nil⟩
    exact isLone line (List.mem_append_left _ mem)
  · rcases List.mem_cons.mp mem with rfl | mem
    · rcases coded head List.mem_cons_self with ⟨codes, headCoded, areKnown⟩
      exact ⟨codes, headCoded.prepend free, areKnown⟩
    · exact coded line (List.mem_cons_of_mem _ mem)

theorem behind_code {inner : Text} (nonempty : inner ≠ []) (closed : '`' ∉ inner)
    (unbroken : '\n' ∉ inner) (known : isKnown inner) (coded : LinesCoded isKnown rest) :
    LinesCoded isKnown ('`' :: (inner ++ ['`']) ++ rest) := by
  have noBreak : '\n' ∉ '`' :: (inner ++ ['`']) := by
    simp [unbroken]
  rcases Text.exists_splitOn_append_of_not_mem noBreak rest with ⟨head, tail, restSplit, split⟩
  rw [LinesCoded, Text.lines, restSplit] at coded
  rw [LinesCoded, Text.lines, split]
  intro line mem
  rcases List.mem_cons.mp mem with rfl | mem
  · rcases coded head List.mem_cons_self with ⟨codes, headCoded, areKnown⟩
    refine ⟨inner :: codes, ?_, ?_⟩
    · have whole := Coded.code List.not_mem_nil nonempty closed unbroken headCoded
      simpa using whole
    · intro code mem
      rcases List.mem_cons.mp mem with rfl | mem
      · exact known
      · exact areKnown code mem
  · exact coded line (List.mem_cons_of_mem _ mem)

end LinesCoded

/-- Inline code that is known, and not empty. -/
def KnownCode (isKnown : Text → Prop) (source : Text) : Prop :=
  ∃ inner ≠ [], source = '`' :: (inner ++ ['`']) ∧ isKnown inner

theorem LinesCoded.behind_source {isKnown : Text → Prop} {source rest : Text}
    (isCode : IsCode source) (known : KnownCode isKnown source) (coded : LinesCoded isKnown rest) :
    LinesCoded isKnown (source ++ rest) := by
  rcases isCode with ⟨inner, rfl, closed, unbroken⟩
  rcases known with ⟨other, nonempty, same, known⟩
  rw [List.cons.injEq, List.append_cancel_right_eq] at same
  rcases same with ⟨_, rfl⟩
  exact coded.behind_code nonempty closed unbroken known

/-- The inline code in the lines of a text with tokens is that of the text as it is written. -/
theorem linesCoded_stages {isKnown : Text → Prop} {pieces : List (Bool × Text)}
    (spaced : Spaced pieces) {stages : List Stage} {put : List Text}
    (puts : Puts Stage.Fits pieces stages put) (inLine : ∀ stage ∈ stages, stage.InLine)
    (known : ∀ source, (true, source) ∈ pieces → KnownCode isKnown source) :
    LinesCoded isKnown (stages.flatMap Stage.shown) := by
  induction spaced generalizing stages put with
  | done =>
      cases puts
      exact .of_lone (lone_of_single (by decide))
  | last codeless =>
      cases puts with
      | cons fit following =>
          cases following
          cases fit with
          | plain imagesGo linksGo =>
              rename_i imaged linked images links
              have isLone := lone_plain imagesGo linksGo (inLine _ List.mem_cons_self) (.inl rfl)
                (by rw [List.append_nil]; exact codeless.lone)
              exact .of_lone isLone
  | code isCode following step =>
      cases puts with
      | cons fit others =>
          cases fit
          have coded := step others (fun stage mem => inLine stage (List.mem_cons_of_mem _ mem))
            fun source mem => known source (List.mem_cons_of_mem _ mem)
          exact coded.behind_source isCode (known _ List.mem_cons_self)
  | between codeless isCode following step =>
      cases puts with
      | cons fit others =>
          cases others with
          | cons codeFit others =>
              cases codeFit
              cases fit with
              | plain imagesGo linksGo =>
                  have coded := step others
                    (fun stage mem =>
                      inLine stage (List.mem_cons_of_mem _ (List.mem_cons_of_mem _ mem)))
                    fun source mem =>
                      known source (List.mem_cons_of_mem _ (List.mem_cons_of_mem _ mem))
                  have isLone := lone_plain imagesGo linksGo (inLine _ List.mem_cons_self) (.inr rfl)
                    codeless.lone
                  exact (coded.behind_source isCode
                    (known _ (List.mem_cons_of_mem _ List.mem_cons_self))).behind_plain isLone

end DocBinder.Placeholder
