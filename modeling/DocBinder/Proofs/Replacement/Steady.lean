import DocBinder.Proofs.Markdown.Headings
import DocBinder.Proofs.Replacement.Traded

/-!
# Lines that keep their headings

What comes before the first part of a line that gives way stays, so that the beginning of the line tells
the same about fences and headings, unless number signs come to stand behind each other.
-/

namespace DocBinder

open Text Markdown

namespace Placeholder

variable {trades : Text → Text → Prop} {text shown rest further source replacement : Text}

/-- What may take the place of a part of a line: something that shows a character first which is no
backtick, and that begins with a number sign only where the part has one behind its bracket. -/
structure Trades (source replacement : Text) : Prop where
  begins : source.head? = some '!' ∨ source.head? = some '['
  shows : (trimStart replacement).head?.any (· != '`') = true
  apart : replacement.head? = some '#' → ['[', '#'] <+: source
  feeds : '\n' ∉ source ∧ '\n' ∉ replacement
  returns : '\r' ∉ source ∧ '\r' ∉ replacement

theorem Trades.exists_source (trades : Trades source replacement) :
    ∃ first more, source = first :: more ∧ (first = '!' ∨ first = '[') := by
  rcases source with _ | ⟨first, more⟩
  · rcases trades.begins with isHead | isHead <;> cases isHead
  · refine ⟨first, more, rfl, ?_⟩
    rcases trades.begins with isHead | isHead
    · exact .inl (Option.some.inj isHead)
    · exact .inr (Option.some.inj isHead)

theorem Trades.exists_shown (trades : Trades source replacement) :
    ∃ first more, trimStart replacement = first :: more ∧ first ≠ '`' := by
  have shows := trades.shows
  rcases shown : trimStart replacement with _ | ⟨first, more⟩
  · rw [shown] at shows
    cases shows
  · rw [shown] at shows
    exact ⟨first, more, rfl, by simpa using shows⟩

theorem Trades.nonempty (trades : Trades source replacement) : source ≠ [] ∧ replacement ≠ [] := by
  constructor
  · rcases trades.exists_source with ⟨first, more, rfl, _⟩
    exact List.cons_ne_nil _ _
  · rintro rfl
    have shows := trades.shows
    cases shows

/-! ## Lines -/

/-- The number signs of a heading do not stand before a link whose text begins with another one. -/
def Apart (line : Text) : Prop :=
  ['#'] <+: trimStart line → ¬ ['[', '#'] <+: (trimStart line).dropWhile (· == '#')

instance (line : Text) : Decidable (Apart line) :=
  inferInstanceAs (Decidable (_ → _))

theorem apart_iff :
    Apart text ↔ ∀ count, ¬ List.replicate (count + 1) '#' ++ ['[', '#'] <+: trimStart text := by
  constructor
  · rintro apart count ⟨rest, same⟩
    have signs : (List.replicate (count + 1) '#' ++ ['[', '#'] ++ rest).dropWhile (· == '#') =
        '[' :: '#' :: rest := by
      rw [List.append_assoc, List.dropWhile_append_of_pos (by simp)]
      rfl
    rw [Apart, ← same, signs] at apart
    exact apart ⟨_, rfl⟩ ⟨rest, rfl⟩
  · rintro apart ⟨further, begins⟩ opens
    have areSigns : (trimStart text).takeWhile (· == '#') =
        List.replicate ((trimStart text).takeWhile (· == '#')).length '#' := by
      rw [List.eq_replicate_iff]
      exact ⟨rfl, fun sign mem => by simpa using List.mem_takeWhile_imp mem⟩
    have positive : ((trimStart text).takeWhile (· == '#')).length ≠ 0 := by
      rw [← begins]
      simp
    rcases Nat.exists_eq_succ_of_ne_zero positive with ⟨count, isCount⟩
    apply apart count
    rw [← Nat.succ_eq_add_one, ← isCount, ← areSigns]
    rcases opens with ⟨rest, same⟩
    refine ⟨rest, ?_⟩
    rw [List.append_assoc, same, List.takeWhile_append_dropWhile]

/-- Behind blanks, two lines begin with the same text, and then with what gives way and with something
that shows no backtick first. -/
theorem Trades.exists_led (trades : Trades source replacement) (front rest further : Text) :
    ∃ led lead more, trimStart (front ++ (source ++ rest)) = led ++ (source ++ rest) ∧
      trimStart (front ++ (replacement ++ further)) = led ++ lead :: more ∧ lead ≠ '`' ∧
        (led ≠ [] → lead = '#' → ['[', '#'] <+: source) := by
  rcases trades.exists_source with ⟨first, _, rfl, isMark⟩
  rcases trades.exists_shown with ⟨lead, more, isShown, notMark⟩
  by_cases isBlank : trimStart front = []
  · have shows : trimStart replacement ≠ [] := by
      rw [isShown]
      exact List.cons_ne_nil lead more
    rw [trimStart_append_of_eq_nil isBlank, trimStart_append_of_eq_nil isBlank,
      trimStart_append_of_ne_nil shows, isShown]
    refine ⟨[], lead, _, ?_, rfl, notMark, fun nonempty => absurd rfl nonempty⟩
    rw [trimStart, List.cons_append, List.dropWhile_cons_of_neg, List.nil_append]
    rcases isMark with rfl | rfl <;> decide
  · rw [trimStart_append_of_ne_nil isBlank, trimStart_append_of_ne_nil isBlank]
    rcases replacement with _ | ⟨character, replacement⟩
    · cases isShown
    · refine ⟨_, character, _, rfl, rfl, ?_, fun _ isSign => trades.apart (congrArg some isSign)⟩
      rintro rfl
      rw [trimStart, List.dropWhile_cons_of_neg (by decide), List.cons.injEq] at isShown
      exact notMark isShown.1.symm

theorem Trades.closesFence (trades : Trades source replacement) (front rest : Text) :
    closesFence (front ++ (source ++ rest)) = false ∧
      closesFence (front ++ (replacement ++ rest)) = false := by
  constructor
  · rcases trades.exists_source with ⟨first, more, rfl, isMark⟩
    have mem : first ∈ front ++ (first :: more ++ rest) := by
      simp
    rcases isMark with rfl | rfl
    · exact closesFence_of_mem mem (by decide) (by decide)
    · exact closesFence_of_mem mem (by decide) (by decide)
  · rcases trades.exists_shown with ⟨character, more, isShown, notMark⟩
    have mem : character ∈ trimStart replacement := by
      rw [isShown]
      exact List.mem_cons_self
    have within : character ∈ replacement := (List.dropWhile_sublist isBlank).subset mem
    apply closesFence_of_mem (by simp [within]) notMark
    apply isBlank_of_head?_trimStart
    rw [isShown, List.head?_cons]

/-- The number signs in front of a line stay as many, if no further one comes behind them. -/
theorem level?_of_led {line new led behind more : Text} {lead : Char} {level : Int}
    (apart : Apart line) (oldIs : trimStart line = led ++ behind)
    (notSign : behind.head? ≠ some '#') (newIs : trimStart new = led ++ lead :: more)
    (signs : led ≠ [] → lead = '#' → ['[', '#'] <+: behind) (isLevel : level? line = some level) :
    level? new = some level := by
  rw [level?_eq_some_iff] at isLevel ⊢
  rcases isLevel with ⟨count, rfl, begins, ends⟩
  have notApart := apart_iff.mp apart count
  rw [oldIs, replicate_isPrefix_append notSign] at begins ends
  rw [newIs]
  refine ⟨count, rfl, begins.trans (List.prefix_append led _), ?_⟩
  by_cases isSign : lead = '#'
  · intro longer
    rcases Nat.lt_or_ge (count + 1) led.length with long | short
    · apply ends
      apply List.prefix_of_prefix_length_le longer (List.prefix_append led _)
      rwa [List.length_replicate]
    · have isLed : List.replicate (count + 1) '#' = led := by
        apply begins.eq_of_length_le
        rwa [List.length_replicate]
      apply notApart
      rw [oldIs, isLed, List.prefix_append_right_inj]
      apply signs _ isSign
      rw [← isLed]
      exact List.cons_ne_nil _ _
  · have differs : (lead :: more).head? ≠ some '#' := fun same => isSign (Option.some.inj same)
    rwa [replicate_isPrefix_append differs]

theorem run_isPrefix_of_append {count : Nat} {front rest : Text}
    (begins : List.replicate count '#' ++ ['[', '#'] <+: front ++ '[' :: '[' :: rest) :
    List.replicate count '#' ++ ['[', '#'] <+: front := by
  induction count generalizing front with
  | zero =>
      rcases front with _ | ⟨first, _ | ⟨second, front⟩⟩
      · simp [List.cons_prefix_cons] at begins
      · simp [List.cons_prefix_cons] at begins
      · simpa [List.cons_prefix_cons] using begins
  | succ count step =>
      rcases front with _ | ⟨first, front⟩
      · simp [List.replicate_succ, List.cons_prefix_cons] at begins
      · rw [List.replicate_succ, List.cons_append, List.cons_append, List.cons_prefix_cons] at begins
        rw [List.replicate_succ, List.cons_append, List.cons_prefix_cons]
        exact ⟨begins.1, step begins.2⟩

namespace Traded

variable {line : Text}

/-- What begins with two brackets brings no number sign behind a bracket. -/
theorem apart (bracketed : ∀ source replacement, trades source replacement →
      ['[', '['] <+: replacement)
    (traded : Traded trades line shown) (apart : Apart line) : Apart shown := by
  rcases traded.exists_first with rfl | ⟨front, source, replacement, rest, further, rfl, rfl, fit⟩
  · exact apart
  · rcases bracketed _ _ fit with ⟨more, rfl⟩
    rw [apart_iff] at apart ⊢
    intro count begins
    by_cases isBlank : trimStart front = []
    · rw [trimStart_append_of_eq_nil isBlank, List.replicate_succ] at begins
      exact absurd (List.cons_prefix_cons.mp begins).1 (by decide)
    · apply apart count
      rw [trimStart_append_of_ne_nil isBlank] at begins ⊢
      exact (run_isPrefix_of_append begins).trans (List.prefix_append _ _)

theorem apart_lines {old new : List Text}
    (bracketed : ∀ source replacement, trades source replacement → ['[', '['] <+: replacement)
    (traded : List.Forall₂ (Traded trades) old new) (areApart : ∀ line ∈ old, Apart line) :
    ∀ line ∈ new, Apart line := by
  induction traded with
  | nil => exact areApart
  | cons head tail step =>
      intro line mem
      rcases List.mem_cons.mp mem with rfl | mem
      · exact head.apart bracketed (areApart _ List.mem_cons_self)
      · exact step (fun other otherMem => areApart other (List.mem_cons_of_mem _ otherMem)) line mem

variable (fits : ∀ source replacement, trades source replacement →
  Trades source replacement)

include fits

theorem documentLines (traded : Traded trades text shown) :
    List.Forall₂ (Traded trades) (documentLines text) (documentLines shown) := by
  have feeds : Without '\n' trades := fun _ _ fit => (fits _ _ fit).feeds
  have returns : Without '\r' trades := fun _ _ fit => (fits _ _ fit).returns
  have nonempty (source replacement : Text) (fit : trades source replacement) :
      source ≠ [] ∧ replacement ≠ [] := (fits _ _ fit).nonempty
  exact (traded.normalizeNewlines feeds nonempty returns).lines feeds

/-- What a line is read as depends on its beginning, and that stays up to the first part that gives
way. -/
theorem steady (traded : Traded trades line shown) (apart : Apart line) : Steady line shown := by
  rcases traded.exists_first with rfl | ⟨front, source, replacement, rest, further, rfl, rfl, fit⟩
  · exact ⟨rfl, rfl, fun _ => id⟩
  · have own := fits _ _ fit
    rcases own.exists_led front rest further with ⟨led, lead, more, old, new, notMark, signs⟩
    have differs (character : Char) (other : character ≠ '!' ∧ character ≠ '[') :
        (source ++ rest).head? ≠ some character := by
      rcases own.exists_source with ⟨first, _, rfl, rfl | rfl⟩
      · exact fun same => other.1 (Option.some.inj same).symm
      · exact fun same => other.2 (Option.some.inj same).symm
    have notBacktick : (lead :: more).head? ≠ some '`' := fun same => notMark (Option.some.inj same)
    refine ⟨?_, ?_, ?_⟩
    · rw [Bool.eq_iff_iff, opensFence_iff, opensFence_iff, old, new,
        replicate_isPrefix_append notBacktick, replicate_isPrefix_append (differs '`' (by decide))]
    · rw [(own.closesFence front rest).1, (own.closesFence front further).2]
    · intro level
      apply level?_of_led apart old (differs '#' (by decide)) new
      exact fun nonempty isSign => (signs nonempty isSign).trans (List.prefix_append source rest)

theorem steady_lines {old new : List Text} (traded : List.Forall₂ (Traded trades) old new)
    (areApart : ∀ line ∈ old, Apart line) : List.Forall₂ Steady old new := by
  induction traded with
  | nil => exact .nil
  | cons head tail step =>
      apply List.Forall₂.cons (head.steady fits (areApart _ List.mem_cons_self))
      exact step fun other mem => areApart other (List.mem_cons_of_mem _ mem)

end Traded

end Placeholder

end DocBinder
