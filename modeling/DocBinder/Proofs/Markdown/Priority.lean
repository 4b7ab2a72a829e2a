import DocBinder.Proofs.Markdown.Passages

/-!
# Priority of styles

Code comes before bold, and bold before italic: a match is kept exactly when it overlaps no kept match
of a style that comes before its own. That rule leaves no choice, and it is what one pass over all
matches does that takes them by priority and place and keeps each that is still free.
-/

namespace DocBinder

/-- The number of styles that come before a style. -/
def SpanStyle.rank : SpanStyle → Nat
  | .code => 0
  | .bold => 1
  | .italic => 2

namespace Markdown

/-! ## The rule -/

/-- Of the matches found in a line, those are kept that overlap no kept match of a style that comes
before their own. -/
structure Prefers (line : Text) (kept : List Emphasis) : Prop where
  found : ∀ emphasis ∈ kept, emphasis ∈ scan emphasis.style line
  keeps : ∀ style, ∀ emphasis ∈ scan style line, (emphasis ∈ kept ↔
    ∀ other ∈ kept, other.style.rank < style.rank → emphasis.overlaps other = false)

theorem style_of_mem_scan {style : SpanStyle} {line : Text} {emphasis : Emphasis}
    (mem : emphasis ∈ scan style line) : emphasis.style = style :=
  (stands_of_mem_scanFrom mem).1

theorem mem_keepFree {kept found : List Emphasis} {emphasis : Emphasis} :
    emphasis ∈ keepFree kept found ↔ emphasis ∈ kept ∨
      emphasis ∈ found ∧ ∀ other ∈ kept, emphasis.overlaps other = false := by
  rw [keepFree, List.mem_append, List.mem_filter]
  simp

theorem prefers_accepted (line : Text) : Prefers line (accepted line) := by
  have notStyle {style other : SpanStyle} (differs : style ≠ other) {emphasis : Emphasis}
      (mem : emphasis ∈ scan style line) : emphasis ∉ scan other line := by
    intro otherMem
    apply differs
    rw [← style_of_mem_scan mem, style_of_mem_scan otherMem]
  constructor
  · intro emphasis mem
    rcases exists_scan_of_mem_accepted mem with ⟨style, found⟩
    rwa [style_of_mem_scan found]
  · intro style emphasis mem
    cases style with
    | code =>
        constructor
        · intro _ other _ before
          cases before
        · intro _
          exact mem_keepFree.mpr (.inl (mem_keepFree.mpr (.inl mem)))
    | bold =>
        simp only [accepted, mem_keepFree, mem, notStyle (by decide : .bold ≠ .code) mem,
          notStyle (by decide : .bold ≠ .italic) mem, false_or, true_and, false_and, or_false]
        constructor
        · rintro free other ((otherMem | ⟨otherMem, _⟩) | ⟨otherMem, _⟩) before
          · exact free other otherMem
          · rw [style_of_mem_scan otherMem] at before
            cases Nat.lt_irrefl _ before
          · rw [style_of_mem_scan otherMem] at before
            cases Nat.lt_asymm before (by decide)
        · intro free other otherMem
          apply free other (.inl (.inl otherMem))
          rw [style_of_mem_scan otherMem]
          decide
    | italic =>
        simp only [accepted, mem_keepFree, mem, notStyle (by decide : .italic ≠ .code) mem,
          notStyle (by decide : .italic ≠ .bold) mem, false_or, true_and, false_and]
        constructor
        · rintro free other (otherMem | ⟨otherMem, _⟩) before
          · exact free other otherMem
          · rw [style_of_mem_scan otherMem] at before
            cases Nat.lt_irrefl _ before
        · intro free other otherMem
          apply free other (.inl otherMem)
          rcases otherMem with otherMem | ⟨otherMem, _⟩
          · rw [style_of_mem_scan otherMem]
            decide
          · rw [style_of_mem_scan otherMem]
            decide

/-- The rule decides about every match. -/
theorem Prefers.mem_iff {line : Text} {kept others : List Emphasis} (first : Prefers line kept)
    (second : Prefers line others) {emphasis : Emphasis} :
    emphasis ∈ kept ↔ emphasis ∈ others := by
  -- By the number of styles that come before that of the match.
  generalize isRank : emphasis.style.rank = rank
  induction rank using Nat.strong_induction_on generalizing emphasis with
  | h rank step =>
      have agree (mem : emphasis ∈ scan emphasis.style line) :
          emphasis ∈ kept ↔ emphasis ∈ others := by
        rw [first.keeps _ emphasis mem, second.keeps _ emphasis mem]
        constructor
        · intro free other otherMem before
          exact free other ((step _ (isRank ▸ before) rfl).mpr otherMem) before
        · intro free other otherMem before
          exact free other ((step _ (isRank ▸ before) rfl).mp otherMem) before
      constructor
      · intro mem
        exact (agree (first.found emphasis mem)).mp mem
      · intro mem
        exact (agree (second.found emphasis mem)).mpr mem

/-! ## One pass over all matches -/

/-- Take matches one after the other and keep each that overlaps none of those kept already. -/
def keepInTurn (kept : List Emphasis) : List Emphasis → List Emphasis
  | [] => kept
  | emphasis :: rest =>
      if kept.any emphasis.overlaps then keepInTurn kept rest
      else keepInTurn (kept ++ [emphasis]) rest

/-- Whether a match comes before another one by priority and place, or is neither before nor
behind it. -/
def notBehind (first second : Emphasis) : Bool :=
  first.style.rank < second.style.rank ||
    (first.style.rank == second.style.rank && first.start ≤ second.start)

/-- All matches of a line, by priority and place. -/
def candidates (line : Text) : List Emphasis :=
  (scan .code line ++ scan .bold line ++ scan .italic line).mergeSort notBehind

theorem keepInTurn_append (kept first second : List Emphasis) :
    keepInTurn kept (first ++ second) = keepInTurn (keepInTurn kept first) second := by
  induction first generalizing kept with
  | nil => rfl
  | cons emphasis rest step =>
      rw [List.cons_append, keepInTurn, keepInTurn]
      split
      · exact step kept
      · exact step (kept ++ [emphasis])

/-- Matches that overlap none of each other are decided about by those kept before. -/
theorem keepInTurn_eq_keepFree (kept : List Emphasis) {found : List Emphasis}
    (apart : found.Pairwise fun first second => first.stop ≤ second.start) :
    keepInTurn kept found = keepFree kept found := by
  induction found generalizing kept with
  | nil => simp [keepInTurn, keepFree]
  | cons emphasis rest step =>
      rw [List.pairwise_cons] at apart
      rw [keepInTurn]
      split
      · rename_i overlaps
        rw [step kept apart.2, keepFree, keepFree, List.filter_cons_of_neg (by simp [overlaps])]
      · rename_i free
        have same : ∀ other ∈ rest,
            (!(kept ++ [emphasis]).any other.overlaps) = !kept.any other.overlaps := by
          intro other mem
          have behind := apart.1 other mem
          have apartHere : other.overlaps emphasis = false := by
            simp only [Emphasis.overlaps, Bool.and_eq_false_iff, decide_eq_false_iff_not]
            omega
          simp [apartHere]
        rw [step _ apart.2, keepFree, keepFree, List.filter_cons_of_pos (by simpa using free),
          List.filter_congr same, List.append_assoc, List.singleton_append]

theorem candidates_eq (line : Text) :
    candidates line = scan .code line ++ scan .bold line ++ scan .italic line := by
  have ownOrder (style : SpanStyle) :
      (scan style line).Pairwise fun first second => notBehind first second = true := by
    apply (pairwise_scan style line).imp_of_mem
    intro first second firstMem secondMem behind
    have notEmpty := (stands_of_mem_scanFrom firstMem).2.2.start_lt_stop
    have inOrder : first.start ≤ second.start := by omega
    simp [notBehind, style_of_mem_scan firstMem, style_of_mem_scan secondMem, inOrder]
  have between {first second : SpanStyle} (before : first.rank < second.rank)
      {emphasis other : Emphasis} (mem : emphasis ∈ scan first line)
      (otherMem : other ∈ scan second line) : notBehind emphasis other = true := by
    simp [notBehind, style_of_mem_scan mem, style_of_mem_scan otherMem, before]
  apply List.mergeSort_of_pairwise
  rw [List.pairwise_append, List.pairwise_append]
  refine ⟨⟨ownOrder .code, ownOrder .bold, ?_⟩, ownOrder .italic, ?_⟩
  · intro emphasis mem other otherMem
    exact between (by decide) mem otherMem
  · intro emphasis mem other otherMem
    rcases List.mem_append.mp mem with mem | mem
    · exact between (by decide) mem otherMem
    · exact between (by decide) mem otherMem

theorem accepted_eq_keepInTurn (line : Text) : accepted line = keepInTurn [] (candidates line) := by
  rw [candidates_eq, keepInTurn_append, keepInTurn_append, accepted,
    keepInTurn_eq_keepFree _ (pairwise_scan _ _), keepInTurn_eq_keepFree _ (pairwise_scan _ _),
    keepInTurn_eq_keepFree _ (pairwise_scan _ _)]
  simp [keepFree]

/-! ## What counts -/

/-- The matches that count overlap nowhere, and a match of a style counts exactly when it overlaps
none that counts and whose style comes before. Nothing else satisfies that, and one pass over all
matches by priority and place comes to it. So all code counts, and its text is shown as it is
written. -/
theorem settles_accepted (line : Text) :
    (accepted line).Pairwise Emphasis.Apart ∧
    (∀ style, ∀ emphasis ∈ scan style line, (emphasis ∈ accepted line ↔
      ∀ other ∈ accepted line, other.style.rank < style.rank → emphasis.overlaps other = false)) ∧
    (∀ kept, Prefers line kept → ∀ emphasis, emphasis ∈ kept ↔ emphasis ∈ accepted line) ∧
    accepted line = keepInTurn [] (candidates line) ∧
    ∀ emphasis ∈ scan .code line, ∃ span ∈ (inlineSpans line).2, span.style = .code ∧
      (inlineSpans line).1.extract span.start span.stop =
        line.extract emphasis.innerStart emphasis.innerStop := by
  have prefers := prefers_accepted line
  refine ⟨apart_accepted line, prefers.keeps, ?_, accepted_eq_keepInTurn line, ?_⟩
  · intro kept others emphasis
    exact others.mem_iff prefers
  · intro emphasis mem
    have counts : emphasis ∈ accepted line := by
      apply (prefers.keeps .code emphasis mem).mpr
      intro other _ before
      cases before
    have covered := List.mem_map_of_mem (f := fun emphasis : Emphasis => (emphasis.style,
      line.extract emphasis.innerStart emphasis.innerStop)) (mem_orderedMatches.mpr counts)
    rw [← covers_inlineSpans] at covered
    rcases List.mem_map.mp covered with ⟨span, spanMem, same⟩
    rw [Prod.mk.injEq, style_of_mem_scan mem] at same
    exact ⟨span, spanMem, same⟩

example : accepted "a **b `c` d** `*`".toList = [⟨.code, 6, 1, 1⟩, ⟨.code, 14, 1, 1⟩] := by
  decide +kernel

end Markdown

end DocBinder
