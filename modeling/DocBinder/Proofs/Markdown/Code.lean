import DocBinder.Proofs.Markdown.Passages
import DocBinder.Proofs.Text.Lines

/-!
# Code in a line

Inline code can be read off a line from left to right when a single backtick is left over at most, and
only at the end. Such a line keeps its code when it is stripped, when the mark of a list entry is
taken off it, and when it is cut at a character that is in no code.
-/

namespace DocBinder.Markdown

/-- A line, and the inline code in it from left to right. -/
inductive Coded : Text → List Text → Prop
  | plain {line : Text} (single : line.count '`' ≤ 1) : Coded line []
  | code {before inner rest : Text} {codes : List Text} (free : '`' ∉ before)
      (nonempty : inner ≠ []) (closed : '`' ∉ inner) (unbroken : '\n' ∉ inner)
      (following : Coded rest codes) :
      Coded (before ++ '`' :: (inner ++ '`' :: rest)) (inner :: codes)

namespace Coded

variable {line free : Text} {codes : List Text}

theorem of_free (free : '`' ∉ line) : Coded line [] :=
  .plain (by rw [List.count_eq_zero_of_not_mem free]; exact Nat.zero_le 1)

theorem prepend (notMark : '`' ∉ free) (coded : Coded line codes) : Coded (free ++ line) codes := by
  cases coded with
  | plain single =>
      apply plain
      rwa [List.count_append, List.count_eq_zero_of_not_mem notMark, Nat.zero_add]
  | code beforeFree nonempty closed unbroken following =>
      rw [← List.append_assoc]
      apply code _ nonempty closed unbroken following
      rw [List.mem_append, not_or]
      exact ⟨notMark, beforeFree⟩

theorem of_prepend (notMark : '`' ∉ free) (coded : Coded (free ++ line) codes) :
    Coded line codes := by
  generalize same : free ++ line = whole at coded
  cases coded with
  | plain single =>
      apply plain
      rw [← same, List.count_append] at single
      omega
  | code beforeFree nonempty closed unbroken following =>
      rcases List.append_eq_append_iff.mp same with ⟨between, rfl, rfl⟩ | ⟨between, rfl, split⟩
      · apply code _ nonempty closed unbroken following
        exact fun mem => beforeFree (List.mem_append_right _ mem)
      · rcases between with _ | ⟨character, between⟩
        · rw [List.nil_append] at split
          rw [← split]
          exact code List.not_mem_nil nonempty closed unbroken following
        · rw [List.cons_append, List.cons.injEq] at split
          rw [← split.1] at notMark
          simp at notMark

theorem of_append (notMark : '`' ∉ free) (coded : Coded (line ++ free) codes) :
    Coded line codes := by
  generalize same : line ++ free = whole at coded
  induction coded generalizing line with
  | plain single =>
      apply plain
      rw [← same, List.count_append] at single
      omega
  | code beforeFree nonempty closed unbroken following step =>
      rename_i before inner rest codes
      have ends : line ++ free = (before ++ '`' :: inner) ++ '`' :: rest := by
        rw [same]
        simp
      rcases List.append_eq_append_iff.mp ends with ⟨between, _, isFree⟩ | ⟨between, rfl, split⟩
      · rw [isFree] at notMark
        simp at notMark
      · rcases between with _ | ⟨character, between⟩
        · rw [List.nil_append] at split
          rw [← split] at notMark
          simp at notMark
        · rw [List.cons_append, List.cons.injEq] at split
          rcases split with ⟨rfl, split⟩
          have inside := code beforeFree nonempty closed unbroken (step split.symm)
          rwa [List.append_assoc, List.cons_append]

/-- A line can be cut at a character that is in no code. -/
theorem cut {separator : Char} (notMark : separator ≠ '`') {first second : Text}
    (coded : Coded (first ++ separator :: second) codes) (outside : ∀ code ∈ codes, separator ∉ code) :
    ∃ early late, codes = early ++ late ∧ Coded first early ∧ Coded second late := by
  generalize same : first ++ separator :: second = whole at coded
  induction coded generalizing first with
  | plain single =>
      rw [← same, List.count_append, List.count_cons_of_ne notMark] at single
      exact ⟨[], [], rfl, .plain (by omega), .plain (by omega)⟩
  | code beforeFree nonempty closed unbroken following step =>
      rename_i before inner rest codes
      rcases Text.append_cons_eq_append_cons notMark same with
        ⟨between, rfl, rfl⟩ | ⟨between, rfl, split⟩
      · refine ⟨[], inner :: codes, rfl, .of_free ?_, .code ?_ nonempty closed unbroken following⟩
        · exact fun mem => beforeFree (List.mem_append_left _ mem)
        · exact fun mem => beforeFree (List.mem_append_right _ (List.mem_cons_of_mem _ mem))
      · have notInside := outside inner List.mem_cons_self
        rcases Text.append_cons_eq_append_cons notMark.symm split with
          ⟨further, rfl, rfl⟩ | ⟨further, rfl, _⟩
        · rcases step (fun other mem => outside other (List.mem_cons_of_mem _ mem)) rfl with
            ⟨early, late, rfl, firstCoded, secondCoded⟩
          refine ⟨inner :: early, late, rfl, ?_, secondCoded⟩
          exact .code beforeFree nonempty closed unbroken firstCoded
        · simp at notInside

theorem of_mem_splitOn {separator : Char} (notMark : separator ≠ '`') (coded : Coded line codes)
    (outside : ∀ code ∈ codes, separator ∉ code) {piece : Text}
    (mem : piece ∈ Text.splitOn separator line) : ∃ own, own ⊆ codes ∧ Coded piece own := by
  have whole := Text.join_splitOn separator line
  generalize Text.splitOn separator line = pieces at mem whole
  induction pieces generalizing line codes with
  | nil => cases mem
  | cons first others step =>
      rcases others with _ | ⟨next, others⟩
      · rw [List.mem_singleton.mp mem]
        rw [Text.join] at whole
        exact ⟨codes, List.Subset.refl _, whole ▸ coded⟩
      · rw [← whole, Text.join_cons separator first (List.cons_ne_nil next others)] at coded
        rcases coded.cut notMark outside with ⟨early, late, rfl, firstCoded, restCoded⟩
        rcases List.mem_cons.mp mem with rfl | mem
        · exact ⟨early, List.subset_append_left _ _, firstCoded⟩
        · rcases step restCoded (fun code mem => outside code (List.mem_append_right _ mem)) mem rfl with
            ⟨own, isSubset, pieceCoded⟩
          exact ⟨own, List.Subset.trans isSubset (List.subset_append_right _ _), pieceCoded⟩

theorem strip (coded : Coded line codes) : Coded (Text.strip line) codes := by
  rcases Text.exists_strip line with ⟨front, back, split, frontBlank, backBlank⟩
  have notMark (blanks : Text) (areBlank : ∀ character ∈ blanks, Text.isBlank character = true) :
      '`' ∉ blanks := by
    intro mem
    have isBlank := areBlank _ mem
    revert isBlank
    decide
  rw [split] at coded
  exact (coded.of_prepend (notMark front frontBlank)).of_append (notMark back backBlank)

/-! ## Reading the code off -/

theorem codeAt_inline {inner rest : Text} (nonempty : inner ≠ []) (closed : '`' ∉ inner)
    (unbroken : '\n' ∉ inner) :
    codeAt ('`' :: (inner ++ '`' :: rest)) = some (1, inner.length) := by
  simp [codeAt, Text.takeWhile_closed closed unbroken, nonempty]

end Coded

theorem exists_scanFrom_skip (style : SpanStyle) (before : Option Char) (position : Nat)
    (passed rest : Text) : ∃ last, scanFrom style before position passed.length (passed ++ rest) =
      scanFrom style last (position + passed.length) 0 rest := by
  induction passed generalizing before position with
  | nil => exact ⟨before, rfl⟩
  | cons character passed step =>
      rcases step (some character) (position + 1) with ⟨last, same⟩
      refine ⟨last, ?_⟩
      rw [List.length_cons, List.cons_append, scanFrom, same]
      congr 1
      omega

theorem exists_scanFrom_free (before : Option Char) (position : Nat) {free : Text}
    (notMark : '`' ∉ free) (rest : Text) :
    ∃ last, scanFrom .code before position 0 (free ++ rest) =
      scanFrom .code last (position + free.length) 0 rest := by
  induction free generalizing before position with
  | nil => exact ⟨before, rfl⟩
  | cons character free step =>
      rw [List.mem_cons, not_or] at notMark
      rcases step (some character) (position + 1) notMark.2 with ⟨last, same⟩
      refine ⟨last, ?_⟩
      have noCode : codeAt (character :: (free ++ rest)) = none := by
        unfold codeAt
        split
        · rename_i opens
          cases opens
          exact absurd rfl notMark.1
        · rfl
      rw [List.cons_append, scanFrom, emphasisAt, noCode]
      dsimp only
      rw [same, List.length_cons]
      congr 1
      omega

/-- A single backtick begins no code. -/
theorem scanFrom_of_single (before : Option Char) (position skip : Nat) {line : Text}
    (single : line.count '`' ≤ 1) : scanFrom .code before position skip line = [] := by
  apply List.eq_nil_iff_forall_not_mem.mpr
  intro emphasis mem
  rcases stands_of_mem_scanFrom mem with ⟨isCode, _, front, marker, inner, behind, rfl, _, isMarker, _⟩
  rw [isCode, SpanStyle.markers, List.mem_singleton] at isMarker
  subst isMarker
  simp only [List.count_append, List.count_singleton_self] at single
  omega

/-- The code of a line is what its code spans surround. -/
theorem Coded.surrounds {line : Text} {codes : List Text} (coded : Coded line codes) (front : Text)
    (before : Option Char) :
    (scanFrom .code before front.length 0 line).map (fun emphasis =>
      (front ++ line).extract emphasis.innerStart emphasis.innerStop) = codes := by
  induction coded generalizing front before with
  | plain single =>
      rw [scanFrom_of_single before front.length 0 single]
      rfl
  | code free nonempty closed unbroken following step =>
      rename_i plain inner rest codes
      rcases exists_scanFrom_free before front.length free ('`' :: (inner ++ '`' :: rest)) with
        ⟨last, reaches⟩
      have finds : scanFrom .code last (front.length + plain.length) 0
          ('`' :: (inner ++ '`' :: rest)) =
          ⟨.code, front.length + plain.length, 1, inner.length⟩ ::
            scanFrom .code (some '`') (front.length + plain.length + 1) (inner ++ ['`']).length
              (inner ++ ['`'] ++ rest) := by
        have length : 2 * 1 + inner.length - 1 = (inner ++ ['`']).length := by
          rw [List.length_append, List.length_singleton]
          omega
        rw [scanFrom, emphasisAt, codeAt_inline nonempty closed unbroken, ← length, List.append_assoc]
        rfl
      rcases exists_scanFrom_skip .code (some '`') (front.length + plain.length + 1)
        (inner ++ ['`']) rest with ⟨behind, skips⟩
      have further := step (front ++ plain ++ '`' :: (inner ++ ['`'])) behind
      have place : front.length + plain.length + 1 + (inner ++ ['`']).length =
          (front ++ plain ++ '`' :: (inner ++ ['`'])).length := by
        simp only [List.length_append, List.length_cons]
        omega
      have whole : front ++ (plain ++ '`' :: (inner ++ '`' :: rest)) =
          front ++ plain ++ '`' :: (inner ++ ['`']) ++ rest := by
        simp
      have inside : (front ++ (plain ++ '`' :: (inner ++ '`' :: rest))).extract
          (front.length + plain.length + 1) (front.length + plain.length + 1 + inner.length) =
          inner := by
        have split : front ++ (plain ++ '`' :: (inner ++ '`' :: rest)) =
            front ++ plain ++ ['`'] ++ (inner ++ '`' :: rest) := by
          simp
        have starts : front.length + plain.length + 1 = (front ++ plain ++ ['`']).length := by
          simp only [List.length_append, List.length_singleton]
        rw [split, starts, List.extract_eq_take_drop, List.drop_left, Nat.add_sub_cancel_left,
          List.take_left]
      rw [reaches, finds, skips, place, List.map_cons, whole, further, ← whole]
      exact congrArg (· :: codes) inside

theorem Coded.scan {line : Text} {codes : List Text} (coded : Coded line codes) :
    (scan .code line).map (fun emphasis => line.extract emphasis.innerStart emphasis.innerStop) =
      codes :=
  coded.surrounds [] none

/-- What is shown as code in a line is its inline code. -/
theorem Coded.mem_of_mem_inlineSpans {line : Text} {codes : List Text} (coded : Coded line codes)
    {span : Span} (mem : span ∈ (inlineSpans line).2) (isCode : span.style = .code) :
    (inlineSpans line).1.extract span.start span.stop ∈ codes := by
  have shown := List.mem_map_of_mem (f := fun span => (span.style,
      (inlineSpans line).1.extract span.start span.stop)) mem
  rw [covers_inlineSpans] at shown
  rcases List.mem_map.mp shown with ⟨emphasis, found, same⟩
  rw [Prod.mk.injEq, isCode] at same
  rcases exists_scan_of_mem_accepted (mem_orderedMatches.mp found) with ⟨style, scanned⟩
  have isStyle := (stands_of_mem_scanFrom scanned).1
  rw [same.1] at isStyle
  subst isStyle
  rw [← coded.scan, ← same.2]
  exact List.mem_map_of_mem scanned

end DocBinder.Markdown
