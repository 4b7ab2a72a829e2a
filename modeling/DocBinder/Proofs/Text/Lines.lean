import DocBinder.Text.Basic
import Mathlib.Data.List.DropRight
import Mathlib.Data.List.TakeWhile

/-!
# Lines of a text

Stripping a line leaves a part of it that stripping does not change. Cutting at line feeds and
joining with them undo each other, as long as no line holds a line feed itself.
-/

namespace DocBinder

namespace Text

theorem isPrefix_strip (text : Text) : strip text <+: trimStart text :=
  List.rdropWhile_prefix isBlank (trimStart text)

theorem strip_sublist (text : Text) : (strip text).Sublist text :=
  (isPrefix_strip text).sublist.trans (List.dropWhile_sublist isBlank)

/-- Stripping takes blanks off both ends. -/
theorem exists_strip (text : Text) :
    ∃ front back, text = front ++ (strip text ++ back) ∧
      (∀ character ∈ front, isBlank character = true) ∧
      ∀ character ∈ back, isBlank character = true := by
  have begins : text.takeWhile isBlank ++ trimStart text = text := List.takeWhile_append_dropWhile
  have ends : strip text ++ (trimStart text).rtakeWhile isBlank = trimStart text :=
    List.rdropWhile_append_rtakeWhile
  refine ⟨text.takeWhile isBlank, (trimStart text).rtakeWhile isBlank, ?_, ?_, ?_⟩
  · rw [ends, begins]
  · exact fun _ mem => List.mem_takeWhile_imp mem
  · exact fun _ mem => List.mem_rtakeWhile_imp mem

/-- A beginning without blanks is not stripped. -/
theorem isPrefix_strip_iff {mark text : Text} (shows : ∀ character ∈ mark, isBlank character = false) :
    mark <+: strip text ↔ mark <+: trimStart text := by
  constructor
  · exact fun begins => begins.trans (isPrefix_strip text)
  · intro begins
    rcases List.prefix_or_prefix_of_prefix begins (isPrefix_strip text) with within | ⟨more, same⟩
    · exact within
    · have whole : strip text ++ (trimStart text).rtakeWhile isBlank = trimStart text :=
        List.rdropWhile_append_rtakeWhile
      rw [← same, ← whole, List.prefix_append_right_inj] at begins
      rcases more with _ | ⟨character, more⟩
      · rw [List.append_nil] at same
        exact ⟨[], by rw [List.append_nil, same]⟩
      · have blank := List.mem_rtakeWhile_imp (begins.subset List.mem_cons_self)
        rw [shows character (by rw [← same]; simp)] at blank
        cases blank

theorem isBlank_of_head?_trimStart {text : Text} {character : Char}
    (first : (trimStart text).head? = some character) : isBlank character = false := by
  have shows := List.head?_dropWhile_not isBlank text
  rw [trimStart] at first
  rw [first] at shows
  exact shows

theorem trimStart_append_of_eq_nil {front : Text} (isBlank : trimStart front = []) (back : Text) :
    trimStart (front ++ back) = trimStart back := by
  unfold trimStart at isBlank ⊢
  rw [List.dropWhile_append, if_pos (List.isEmpty_iff.mpr isBlank)]

theorem trimStart_append_of_ne_nil {front : Text} (shows : trimStart front ≠ []) (back : Text) :
    trimStart (front ++ back) = trimStart front ++ back := by
  unfold trimStart at shows ⊢
  rw [List.dropWhile_append, if_neg (mt List.isEmpty_iff.mp shows)]

theorem trimStart_strip (text : Text) : trimStart (strip text) = strip text := by
  cases stripped : strip text with
  | nil => rfl
  | cons character rest =>
      rcases isPrefix_strip text with ⟨behind, whole⟩
      rw [stripped] at whole
      have first : (trimStart text).head? = some character := by
        rw [← whole, List.cons_append, List.head?_cons]
      have shows := isBlank_of_head?_trimStart first
      rw [trimStart, List.dropWhile_cons_of_neg (by simp [shows])]

theorem strip_strip (text : Text) : strip (strip text) = strip text := by
  rw [strip, trimStart_strip]
  exact List.rdropWhile_idempotent isBlank (trimStart text)

theorem strip_eq_nil {text : Text} (areBlank : ∀ character ∈ text, isBlank character = true) :
    strip text = [] := by
  have none : trimStart text = [] := List.dropWhile_eq_nil_iff.mpr areBlank
  rw [strip, none]
  rfl

theorem strip_blank_append {front : Text} (areBlank : ∀ character ∈ front, isBlank character = true)
    (back : Text) : strip (front ++ back) = strip back := by
  rw [strip, strip, trimStart_append_of_eq_nil (List.dropWhile_eq_nil_iff.mpr areBlank)]

theorem strip_append_blank {back : Text} (areBlank : ∀ character ∈ back, isBlank character = true)
    (front : Text) : strip (front ++ back) = strip front := by
  by_cases blankFront : trimStart front = []
  · have none : trimStart back = [] := List.dropWhile_eq_nil_iff.mpr areBlank
    rw [strip, strip, trimStart_append_of_eq_nil blankFront, blankFront, none]
  · rw [strip, strip, trimStart_append_of_ne_nil blankFront, trimEnd, trimEnd, List.reverse_append,
      List.dropWhile_append_of_pos fun character mem => areBlank character (List.mem_reverse.mp mem)]

/-- A first character that is not blank stays, and so does what stands behind it, but for blanks at the
end. -/
theorem exists_strip_cons {character : Char} (shows : isBlank character = false) (rest : Text) :
    ∃ inner back, rest = inner ++ back ∧ strip (character :: rest) = character :: inner ∧
      ∀ other ∈ back, isBlank other = true := by
  rcases exists_strip (character :: rest) with ⟨front, back, split, frontBlank, backBlank⟩
  rcases front with _ | ⟨first, front⟩
  · rcases isStripped : strip (character :: rest) with _ | ⟨first, inner⟩
    · rw [isStripped] at split
      have whole : character :: rest = back := split
      rw [backBlank character (whole ▸ List.mem_cons_self)] at shows
      cases shows
    · rw [isStripped] at split
      rcases List.cons.inj split with ⟨rfl, same⟩
      exact ⟨inner, back, same, rfl, backBlank⟩
  · rw [(List.cons.inj split).1, frontBlank first List.mem_cons_self] at shows
    cases shows

/-- A run of one character goes on behind a text only where the next text begins with it. -/
theorem replicate_isPrefix_append {count : Nat} {character : Char} {front back : Text}
    (differs : back.head? ≠ some character) :
    List.replicate count character <+: front ++ back ↔ List.replicate count character <+: front := by
  induction count generalizing front with
  | zero => simp
  | succ count step =>
      rcases front with _ | ⟨first, front⟩
      · rcases back with _ | ⟨first, back⟩
        · rfl
        · rw [List.replicate_succ, List.nil_append, List.cons_prefix_cons]
          have other : character ≠ first := by
            rintro rfl
            exact differs rfl
          simp [other]
      · rw [List.replicate_succ, List.cons_append, List.cons_prefix_cons, List.cons_prefix_cons, step]

theorem length_takeWhile_eq_iff {count : Nat} {character : Char} {text : Text} :
    (text.takeWhile (· == character)).length = count ↔
      List.replicate count character <+: text ∧ ¬ List.replicate (count + 1) character <+: text := by
  induction text generalizing count with
  | nil => cases count <;> simp
  | cons first text step =>
      by_cases same : first = character
      · subst same
        cases count with
        | zero => simp
        | succ count =>
            rw [List.replicate_succ, List.replicate_succ, List.cons_prefix_cons, List.cons_prefix_cons]
            simp [← step]
      · have differs : character ≠ first := Ne.symm same
        cases count <;> simp [List.replicate_succ, same, differs]

/-- Of two places that hold different characters, one lies behind the other. -/
theorem append_cons_eq_append_cons {first second : Char} (differs : first ≠ second)
    {before other behind rest : Text} (same : before ++ first :: behind = other ++ second :: rest) :
    (∃ between, other = before ++ first :: between ∧ behind = between ++ second :: rest) ∨
      ∃ between, before = other ++ second :: between ∧ rest = between ++ first :: behind := by
  rcases List.append_eq_append_iff.mp same with ⟨between, split, tail⟩ | ⟨between, split, tail⟩
  · rcases between with _ | ⟨character, between⟩
    · cases tail
      exact absurd rfl differs
    · cases tail
      exact .inl ⟨between, split, rfl⟩
  · rcases between with _ | ⟨character, between⟩
    · cases tail
      exact absurd rfl differs
    · cases tail
      exact .inr ⟨between, split, rfl⟩

/-- The first place of a character splits a text in one way. -/
theorem append_cons_inj {separator : Char} {first second rest others : Text}
    (firstFree : separator ∉ first) (secondFree : separator ∉ second)
    (same : first ++ separator :: rest = second ++ separator :: others) :
    first = second ∧ rest = others := by
  rcases List.append_eq_append_iff.mp same with ⟨between, split, tail⟩ | ⟨between, split, tail⟩
  · rcases between with _ | ⟨character, between⟩
    · cases tail
      exact ⟨by rw [split, List.append_nil], rfl⟩
    · cases tail
      exact absurd (by simp [split]) secondFree
  · rcases between with _ | ⟨character, between⟩
    · cases tail
      exact ⟨by rw [split, List.append_nil], rfl⟩
    · cases tail
      exact absurd (by simp [split]) firstFree

/-- What is read up to a backtick or the end of a line stops at the first backtick. -/
theorem takeWhile_closed {inner : Text} (closed : '`' ∉ inner) (unbroken : '\n' ∉ inner)
    (rest : Text) :
    (inner ++ '`' :: rest).takeWhile (fun character => character != '`' && character != '\n') =
      inner := by
  rw [List.takeWhile_append_of_pos]
  · simp
  · intro character mem
    rw [Bool.and_eq_true, bne_iff_ne, bne_iff_ne]
    exact ⟨fun same => closed (same ▸ mem), fun same => unbroken (same ▸ mem)⟩

theorem not_mem_of_mem_splitOn {separator : Char} {text piece : Text}
    (mem : piece ∈ splitOn separator text) : separator ∉ piece := by
  induction text generalizing piece with
  | nil =>
      rw [List.mem_singleton.mp mem]
      exact List.not_mem_nil
  | cons character rest step =>
      rw [splitOn] at mem
      split at mem
      · rcases List.mem_cons.mp mem with rfl | mem
        · exact List.not_mem_nil
        · exact step mem
      · rename_i differs
        split at mem
        · rw [List.mem_singleton.mp mem, List.mem_singleton]
          exact Ne.symm differs
        · rename_i first others pieces
          rw [pieces] at step
          rcases List.mem_cons.mp mem with rfl | mem
          · rw [List.mem_cons, not_or]
            exact ⟨Ne.symm differs, step List.mem_cons_self⟩
          · exact step (List.mem_cons_of_mem _ mem)

theorem splitOn_append_cons {separator : Char} {piece : Text} (free : separator ∉ piece)
    (rest : Text) :
    splitOn separator (piece ++ separator :: rest) = piece :: splitOn separator rest := by
  induction piece with
  | nil => simp [splitOn]
  | cons character others step =>
      rw [List.mem_cons, not_or] at free
      rw [List.cons_append, splitOn, if_neg (Ne.symm free.1), step free.2]

theorem splitOn_of_not_mem {separator : Char} {piece : Text} (free : separator ∉ piece) :
    splitOn separator piece = [piece] := by
  induction piece with
  | nil => rfl
  | cons character others step =>
      rw [List.mem_cons, not_or] at free
      rw [splitOn, if_neg (Ne.symm free.1), step free.2]

theorem splitOn_ne_nil (separator : Char) (text : Text) : splitOn separator text ≠ [] := by
  cases text with
  | nil => exact List.cons_ne_nil _ _
  | cons character rest =>
      rw [splitOn]
      split
      · exact List.cons_ne_nil _ _
      · split <;> exact List.cons_ne_nil _ _

@[simp] theorem splitOn_cons_self (separator : Char) (rest : Text) :
    splitOn separator (separator :: rest) = [] :: splitOn separator rest := by
  rw [splitOn, if_pos rfl]

theorem exists_splitOn_cons {separator character : Char} (differs : character ≠ separator)
    (rest : Text) : ∃ head tail, splitOn separator rest = head :: tail ∧
      splitOn separator (character :: rest) = (character :: head) :: tail := by
  rw [splitOn, if_neg differs]
  rcases pieces : splitOn separator rest with _ | ⟨head, tail⟩
  · exact absurd pieces (splitOn_ne_nil separator rest)
  · exact ⟨head, tail, rfl, rfl⟩

/-- Where two texts meet, the last piece of one and the first piece of the other are one. -/
theorem exists_splitOn_append (separator : Char) (first second : Text) :
    ∃ front last head tail, splitOn separator first = front ++ [last] ∧
      splitOn separator second = head :: tail ∧
      splitOn separator (first ++ second) = front ++ (last ++ head) :: tail := by
  induction first with
  | nil =>
      rcases pieces : splitOn separator second with _ | ⟨head, tail⟩
      · exact absurd pieces (splitOn_ne_nil separator second)
      · exact ⟨[], [], head, tail, rfl, rfl, pieces⟩
  | cons character first step =>
      rcases step with ⟨front, last, head, tail, firstSplit, secondSplit, split⟩
      by_cases same : character = separator
      · subst same
        refine ⟨[] :: front, last, head, tail, ?_, secondSplit, ?_⟩
        · rw [splitOn_cons_self, firstSplit, List.cons_append]
        · rw [List.cons_append, splitOn_cons_self, split, List.cons_append]
      · rcases exists_splitOn_cons same first with ⟨_, _, firstIs, firstConsIs⟩
        rcases exists_splitOn_cons same (first ++ second) with ⟨_, _, splitIs, splitConsIs⟩
        rw [firstIs] at firstSplit
        rw [splitIs] at split
        rcases front with _ | ⟨line, front⟩
        · cases firstSplit
          cases split
          exact ⟨[], character :: last, head, tail, firstConsIs, secondSplit, splitConsIs⟩
        · cases firstSplit
          cases split
          exact ⟨(character :: _) :: front, last, head, tail, firstConsIs, secondSplit, splitConsIs⟩

theorem exists_splitOn_append_of_not_mem {separator : Char} {first : Text}
    (free : separator ∉ first) (second : Text) :
    ∃ head tail, splitOn separator second = head :: tail ∧
      splitOn separator (first ++ second) = (first ++ head) :: tail := by
  rcases exists_splitOn_append separator first second with
    ⟨front, last, head, tail, firstSplit, secondSplit, split⟩
  rw [splitOn_of_not_mem free] at firstSplit
  rcases List.append_eq_singleton_iff.mp firstSplit.symm with ⟨rfl, same⟩ | ⟨_, same⟩
  · cases same
    exact ⟨head, tail, secondSplit, split⟩
  · cases same

theorem splitOn_append_cons_append (separator : Char) (first second : Text) :
    splitOn separator (first ++ separator :: second) =
      splitOn separator first ++ splitOn separator second := by
  rcases exists_splitOn_append separator first (separator :: second) with
    ⟨front, last, head, tail, firstSplit, secondSplit, split⟩
  rw [splitOn_cons_self] at secondSplit
  cases secondSplit
  rw [split, firstSplit]
  simp

theorem join_cons (separator : Char) (piece : Text) {pieces : List Text} (further : pieces ≠ []) :
    join [separator] (piece :: pieces) = piece ++ separator :: join [separator] pieces := by
  cases pieces with
  | nil => exact absurd rfl further
  | cons next others => simp [join]

theorem join_splitOn (separator : Char) (text : Text) :
    join [separator] (splitOn separator text) = text := by
  induction text with
  | nil => rfl
  | cons character rest step =>
      by_cases same : character = separator
      · subst same
        rw [splitOn_cons_self, join_cons character [] (splitOn_ne_nil character rest), step,
          List.nil_append]
      · rcases exists_splitOn_cons same rest with ⟨head, tail, split, splitCons⟩
        rw [split] at step
        rw [splitCons]
        cases tail <;> simpa [join] using step

theorem joinLines_lines (text : Text) : joinLines (lines text) = text :=
  join_splitOn '\n' text

theorem length_le_joinLines (line : Text) (lines : List Text) :
    line.length ≤ (joinLines (line :: lines)).length := by
  cases lines <;> simp [joinLines, join]

theorem joinLines_cons (line : Text) {lines : List Text} (further : lines ≠ []) :
    joinLines (line :: lines) = line ++ '\n' :: joinLines lines :=
  join_cons '\n' line further

theorem joinLines_append {first second : List Text} (firstNonempty : first ≠ [])
    (secondNonempty : second ≠ []) :
    joinLines (first ++ second) = joinLines first ++ '\n' :: joinLines second := by
  induction first with
  | nil => exact absurd rfl firstNonempty
  | cons line rest step =>
      rcases rest with _ | ⟨next, rest⟩
      · exact joinLines_cons line secondNonempty
      · rw [List.cons_append, joinLines_cons line (by simp), step (by simp),
          joinLines_cons line (by simp), List.append_assoc, List.cons_append]

theorem joinLines_isInfix {part lines : List Text} (nonempty : part ≠ [])
    (isInfix : part <:+: lines) : joinLines part <:+: joinLines lines := by
  rcases isInfix with ⟨front, back, rfl⟩
  have begins : joinLines part <+: joinLines (part ++ back) := by
    by_cases isLast : back = []
    · exact ⟨[], by simp [isLast]⟩
    · rw [joinLines_append nonempty isLast]
      exact List.prefix_append _ _
  rw [List.append_assoc]
  by_cases isFirst : front = []
  · rw [isFirst, List.nil_append]
    exact begins.isInfix
  · rw [joinLines_append isFirst (by simp [nonempty])]
    exact begins.isInfix.trans ((List.suffix_cons _ _).trans (List.suffix_append _ _)).isInfix

theorem isInfix_of_mem_lines {text line : Text} (mem : line ∈ lines text) : line <:+: text := by
  rcases List.append_of_mem mem with ⟨front, back, split⟩
  have alone : [line] <:+: lines text := ⟨front, back, by rw [split, List.append_assoc]; rfl⟩
  have joined := joinLines_isInfix (List.cons_ne_nil line []) alone
  rwa [joinLines_lines] at joined

/-- The lines of texts that are joined are the lines of each of them. -/
theorem lines_joinLines_eq_flatMap {texts : List Text} (nonempty : texts ≠ []) :
    lines (joinLines texts) = texts.flatMap lines := by
  induction texts with
  | nil => exact absurd rfl nonempty
  | cons text rest step =>
      by_cases isLast : rest = []
      · subst isLast
        simp [joinLines, join]
      · rw [joinLines_cons text isLast, lines, splitOn_append_cons_append, List.flatMap_cons,
          ← step isLast]
        rfl

/-- Pieces that are joined can be told apart again. -/
theorem splitOn_join {separator : Char} {pieces : List Text} (nonempty : pieces ≠ [])
    (free : ∀ piece ∈ pieces, separator ∉ piece) :
    splitOn separator (join [separator] pieces) = pieces := by
  induction pieces with
  | nil => exact absurd rfl nonempty
  | cons piece rest step =>
      have own := free piece List.mem_cons_self
      by_cases last : rest = []
      · subst last
        exact splitOn_of_not_mem own
      · rw [join_cons separator piece last, splitOn_append_cons own,
          step last fun other mem => free other (List.mem_cons_of_mem _ mem)]

/-- Lines that are joined can be told apart again. -/
theorem lines_joinLines {pieces : List Text} (nonempty : pieces ≠ [])
    (free : ∀ piece ∈ pieces, '\n' ∉ piece) : lines (joinLines pieces) = pieces :=
  splitOn_join nonempty free

/-! ## Carriage returns -/

theorem normalizeNewlines_cons {character : Char} (differs : character ≠ '\r') (rest : Text) :
    normalizeNewlines (character :: rest) = character :: normalizeNewlines rest := by
  rw [normalizeNewlines, if_neg differs]
  rintro _ rfl
  exact absurd rfl differs

theorem normalizeNewlines_cons_carriageReturn (rest : Text) :
    normalizeNewlines ('\r' :: rest) =
      if rest.head? = some '\n' then normalizeNewlines rest else '\n' :: normalizeNewlines rest := by
  rcases rest with _ | ⟨character, rest⟩
  · rfl
  · by_cases isBreak : character = '\n'
    · subst isBreak
      rw [List.head?_cons, if_pos rfl, normalizeNewlines, normalizeNewlines_cons (by decide)]
    · rw [if_neg (by simpa using isBreak), normalizeNewlines, if_pos rfl]
      rintro _ _ same
      exact isBreak (List.cons.inj same).1

theorem normalizeNewlines_append {front : Text} (absent : '\r' ∉ front) (rest : Text) :
    normalizeNewlines (front ++ rest) = front ++ normalizeNewlines rest := by
  induction front with
  | nil => rfl
  | cons character front step =>
      rw [List.mem_cons, not_or] at absent
      rw [List.cons_append, normalizeNewlines_cons (Ne.symm absent.1), step absent.2, List.cons_append]

theorem normalizeNewlines_of_not_mem {text : Text} (absent : '\r' ∉ text) :
    normalizeNewlines text = text := by
  have whole := normalizeNewlines_append absent []
  rwa [List.append_nil, normalizeNewlines, List.append_nil] at whole

/-- A line feed parts what is before it from what is behind it. -/
theorem exists_normalizeNewlines_lineFeed (front : Text) :
    ∃ image, ∀ rest, normalizeNewlines (front ++ '\n' :: rest) =
      image ++ '\n' :: normalizeNewlines rest := by
  induction front with
  | nil => exact ⟨[], fun rest => normalizeNewlines_cons (by decide) rest⟩
  | cons character front step =>
      rcases step with ⟨image, parts⟩
      by_cases isReturn : character = '\r'
      · subst isReturn
        have sameHead (rest : Text) : (front ++ '\n' :: rest).head? = (front ++ ['\n']).head? := by
          cases front <;> rfl
        by_cases paired : (front ++ ['\n']).head? = some '\n'
        · refine ⟨image, fun rest => ?_⟩
          rw [List.cons_append, normalizeNewlines_cons_carriageReturn, sameHead, if_pos paired, parts]
        · refine ⟨'\n' :: image, fun rest => ?_⟩
          rw [List.cons_append, normalizeNewlines_cons_carriageReturn, sameHead, if_neg paired, parts,
            List.cons_append]
      · refine ⟨character :: image, fun rest => ?_⟩
        rw [List.cons_append, normalizeNewlines_cons isReturn, parts, List.cons_append]

end Text

end DocBinder
