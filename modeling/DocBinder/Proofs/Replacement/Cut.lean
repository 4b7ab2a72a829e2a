import DocBinder.Proofs.Formatting.Place
import DocBinder.Proofs.Replacement.Token

/-!
# Cutting tokens out of a buffer

A token stands in the flat text of a buffer, but in the buffer itself images may stand between its
characters. What is replaced are the units from its first to its last character. The replacements
of a plan cut the buffer into such stretches and the gaps between them; since they are carried out
from the highest index down, each one still finds its stretch where the plan saw it. No stretch
holds the end of a line, so that the buffer keeps its shape.
-/

namespace DocBinder

open Docs

/-- The units that show what a token stands for. -/
def Target.units : Target → Buffer
  | .link item => (Replacement.shownText item).map .char
  | .image item => [.image item.uri]

/-- The units that show it when images become text. -/
def Target.fallbackUnits : Target → Buffer
  | .link item => (Replacement.shownText item).map .char
  | .image item => item.fallback.map .char

/-- What a service notes when a link is put in: that its address is shown by its text. -/
def Link.effects (link : Link) : Effects :=
  ⟨if link.url.isEmpty then []
    else [(Replacement.shownText link, .link (String.ofList link.url))], []⟩

/-- What a service notes when the units of a target are put in. -/
def Target.effects : Target → Effects
  | .link item => item.effects
  | .image item => ⟨[], [item.uri]⟩

/-- What a service notes when images become text. -/
def Target.fallbackEffects : Target → Effects
  | .link item => item.effects
  | .image _ => ⟨[], []⟩

/-- Units that begin and end with characters and whose characters are those of a token. -/
structure Docs.Buffer.Spans (covered : Buffer) (token : Text) : Prop where
  spelled : covered.text = token
  begins : ∃ character rest, covered = .char character :: rest
  ends : ∃ front character, covered = front ++ [.char character]

theorem Docs.Buffer.Spans.ne_nil {covered : Buffer} {token : Text} (spans : covered.Spans token) :
    covered ≠ [] := by
  rcases spans.begins with ⟨character, rest, rfl⟩
  simp

/-- Replacements in ascending order cut a buffer that begins at an index into stretches for their
tokens and gaps between them; with the stretches replaced, it becomes another buffer. -/
inductive Cut (units : Target → Buffer) : Nat → Buffer → List Replacement → Buffer → Prop where
  | done (index : Nat) (rest : Buffer) : Cut units index rest [] rest
  | piece {index : Nat} {gap covered rest shown : Buffer} {replacement : Replacement}
      {replacements : List Replacement} (spans : covered.Spans replacement.target.token)
      (starts : replacement.start = index + gap.width)
      (stops : replacement.stop = replacement.start + covered.width)
      (following : Cut units replacement.stop rest replacements shown) :
      Cut units index (gap ++ (covered ++ rest)) (replacement :: replacements)
        (gap ++ (units replacement.target ++ shown))

/-! ## Finding the stretches -/

namespace Docs

theorem length_unitMarks (index : Nat) (buffer : Buffer) :
    (unitMarks index buffer).length = buffer.text.length := by
  rw [← map_fst_unitMarks index, List.length_map]

theorem Buffer.exists_of_text_eq_cons {buffer : Buffer} {character : Char} {rest : Text}
    (shows : buffer.text = character :: rest) :
    ∃ silent after : Buffer, buffer = silent ++ .char character :: after ∧ silent.text = [] ∧
      after.text = rest := by
  rcases List.filterMap_eq_cons_iff.mp shows with ⟨silent, unit, after, rfl, silence, isChar, rest⟩
  refine ⟨silent, after, ?_, List.filterMap_eq_nil_iff.mpr silence, rest⟩
  cases unit with
  | char other =>
      cases isChar
      rfl
  | _ => cases isChar

theorem Buffer.exists_of_text_eq_append {buffer : Buffer} {first second : Text}
    (shows : buffer.text = first ++ second) :
    ∃ before after : Buffer, buffer = before ++ after ∧ before.text = first ∧
      after.text = second := by
  rcases List.filterMap_eq_append_iff.mp shows with ⟨before, after, split, begins, ends⟩
  exact ⟨before, after, split, begins, ends⟩

/-- Where a text of two characters or more stands in the text of a buffer, units span it. -/
theorem Buffer.exists_spans {buffer : Buffer} {token : Text} {position : Nat} (index : Nat)
    (long : 2 ≤ token.length) (stands : token.StandsAt buffer.text position) :
    ∃ before covered after, buffer = before ++ (covered ++ after) ∧ covered.Spans token ∧
      before.text.length = position ∧
      (FlatText.mk (unitMarks index buffer)).realRange position (position + token.length) =
        .ok (index + before.width, index + before.width + covered.width) := by
  have nonempty : token ≠ [] := by
    rintro rfl
    simp at long
  rcases stands.exists_split nonempty with ⟨early, late, text, rfl⟩
  rcases List.exists_cons_of_ne_nil nonempty with ⟨first, others, rfl⟩
  have othersNonempty : others ≠ [] := by
    rintro rfl
    simp at long
  rcases List.eq_nil_or_concat others with isNil | ⟨inner, last, isConcat⟩
  · exact absurd isNil othersNonempty
  rw [List.concat_eq_append] at isConcat
  subst others
  rw [List.cons_append, List.append_assoc, List.singleton_append] at text
  rcases exists_of_text_eq_append text with ⟨front, back, rfl, rfl, backText⟩
  rcases exists_of_text_eq_cons backText with ⟨silent, rest, rfl, silence, restText⟩
  rcases exists_of_text_eq_append restText with ⟨between, others, rfl, rfl, othersText⟩
  rcases exists_of_text_eq_cons othersText with ⟨quiet, after, rfl, quietness, afterText⟩
  refine ⟨front ++ silent, .char first :: (between ++ quiet ++ [.char last]), after, by simp,
    ⟨?_, ⟨first, _, rfl⟩, .char first :: (between ++ quiet), last, by simp⟩, by simp [silence], ?_⟩
  · simp [text_cons, BodyUnit.char?, quietness]
  · have marks : unitMarks index (front ++ (silent ++ .char first ::
          (between ++ (quiet ++ .char last :: after)))) =
        unitMarks index (front ++ silent) ++ ((first, index + Buffer.width (front ++ silent)) ::
          (unitMarks (index + Buffer.width (front ++ silent) + Text.charWidth first)
              (between ++ quiet) ++
            (last, index + Buffer.width (front ++ silent) + Text.charWidth first
              + Buffer.width (between ++ quiet)) ::
            unitMarks (index + Buffer.width (front ++ silent) + Text.charWidth first
              + Buffer.width (between ++ quiet) + Text.charWidth last) after)) := by
      simp [unitMarks_append, unitMarks, Nat.add_assoc]
    have opening : (unitMarks index (front ++ silent)).length = front.text.length := by
      simp [length_unitMarks, silence]
    have closing : (unitMarks (index + Buffer.width (front ++ silent) + Text.charWidth first)
        (between ++ quiet)).length = between.text.length := by
      simp [length_unitMarks, quietness]
    have last : front.text.length + (first :: (between.text ++ [last])).length - 1 =
        front.text.length + (between.text.length + 1) := by
      simp only [List.length_cons, List.length_append, List.length_nil]
      omega
    rw [FlatText.realRange, if_pos (by simp), marks, last, ← opening, ← closing,
      List.getElem?_append_right (Nat.le_refl _), Nat.sub_self,
      List.getElem?_append_right (Nat.le_add_right _ _), Nat.add_sub_cancel_left,
      List.getElem?_cons_zero, List.getElem?_cons_succ,
      List.getElem?_append_right (Nat.le_refl _), Nat.sub_self, List.getElem?_cons_zero]
    simp [BodyUnit.width, Nat.add_assoc]

/-- A range of positions behind some characters. -/
theorem FlatText.realRange_append (front marks : List (Char × Nat)) {start stop first last : Nat}
    (behind : front.length ≤ start)
    (range : (FlatText.mk (front ++ marks)).realRange start stop = .ok (first, last)) :
    (FlatText.mk marks).realRange (start - front.length) (stop - front.length) =
      .ok (first, last) := by
  rw [realRange] at range ⊢
  split at range
  · rename_i isRange
    rw [if_pos (by omega)]
    rw [List.getElem?_append_right behind, List.getElem?_append_right (by omega)] at range
    split at range
    · rename_i opening closing
      rw [show stop - front.length - 1 = stop - 1 - front.length by omega, opening, closing]
      cases range
      rfl
    · cases range
  · cases range

end Docs

/-- Replacements whose tokens stand one behind the other, and whose indices are those of their
tokens, cut the buffer. `place` gives where each token stands. -/
theorem exists_cut (units : Target → Buffer) {index : Nat} {buffer : Buffer}
    {replacements : List Replacement} (place : Replacement → Nat)
    (located : ∀ item ∈ replacements, item.target.token.StandsAt buffer.text (place item) ∧
      (FlatText.mk (unitMarks index buffer)).realRange (place item)
        (place item + item.target.token.length) = .ok (item.start, item.stop))
    (long : ∀ item ∈ replacements, 2 ≤ item.target.token.length)
    (ordered : replacements.Pairwise fun first second =>
      place first + first.target.token.length ≤ place second) :
    ∃ shown, Cut units index buffer replacements shown := by
  induction replacements generalizing index buffer place with
  | nil => exact ⟨buffer, .done index buffer⟩
  | cons item rest step =>
      rcases located item List.mem_cons_self with ⟨stands, range⟩
      rcases Buffer.exists_spans index (long item List.mem_cons_self) stands with
        ⟨before, covered, after, rfl, spans, atPlace, sameRange⟩
      rw [sameRange, Except.ok.injEq, Prod.mk.injEq] at range
      rcases range with ⟨starts, stops⟩
      rw [List.pairwise_cons] at ordered
      have passed : Buffer.text (before ++ covered) =
          before.text ++ item.target.token := by
        rw [Buffer.text_append, spans.spelled]
      have passedLength : (Buffer.text (before ++ covered)).length =
          place item + item.target.token.length := by
        rw [passed, List.length_append, atPlace]
      have indices : index + Buffer.width (before ++ covered) = item.stop := by
        rw [Buffer.width_append]
        omega
      rcases step (fun other => place other - (place item + item.target.token.length)) (by
        intro other mem
        have behind := ordered.1 other mem
        rcases located other (List.mem_cons_of_mem _ mem) with ⟨otherStands, otherRange⟩
        rw [← List.append_assoc, Buffer.text_append, ← Nat.add_sub_cancel' behind, ← passedLength,
          Text.standsAt_append_right] at otherStands
        rw [← List.append_assoc, unitMarks_append] at otherRange
        have range := FlatText.realRange_append _ _ (by rw [length_unitMarks]; omega) otherRange
        rw [length_unitMarks, passedLength, indices] at range
        rw [passedLength] at otherStands
        refine ⟨otherStands, ?_⟩
        rw [← range]
        congr 1
        omega) (fun other mem => long other (List.mem_cons_of_mem _ mem)) (by
        refine ordered.2.imp_of_mem ?_
        intro first second firstMem secondMem apart
        have firstBehind := ordered.1 first firstMem
        have secondBehind := ordered.1 second secondMem
        omega) with ⟨shown, following⟩
      exact ⟨_, .piece spans (by omega) (by omega) following⟩

/-! ## Carrying out replacements -/

/-- What the requests of a replacement do where its token stands, and what they show. -/
def Realizes (act : Replacement → List Request) (units : Target → Buffer)
    (effects : Target → Effects) : Prop :=
  ∀ (replacement : Replacement) (before covered after : Buffer), covered ≠ [] → after ≠ [] →
    replacement.start = before.width + 1 →
    replacement.stop = before.width + covered.width + 1 →
    applyBatch (before ++ (covered ++ after)) (act replacement) =
      .ok (before ++ (units replacement.target ++ after), effects replacement.target)

/-- Putting a link where its token was: its text, and the style of it when it has an address. -/
theorem applyBatch_linkRequests (link : Link) {before after : Buffer} (behind : after ≠ []) :
    applyBatch (before ++ after) (Replacement.linkRequests link (before.width + 1)) =
      .ok (before ++ ((Replacement.shownText link).map .char ++ after), link.effects) := by
  have inserts := Request.apply_insertText_at before (Replacement.shownText link) behind
  rw [Replacement.linkRequests, Link.effects]
  split
  · exact applyBatch_cons inserts (applyBatch_nil _)
  · rename_i addressed
    have shows : (Replacement.shownText link).map BodyUnit.char ≠ [] := by
      rw [Replacement.shownText]
      split
      · simpa using addressed
      · rename_i displayed
        simpa using displayed
    have styles := Request.apply_styleText before after (.link (String.ofList link.url)) shows
    rw [Buffer.width_chars, Nat.add_right_comm, Buffer.text_chars] at styles
    exact applyBatch_cons inserts (applyBatch_cons styles (applyBatch_nil _))

theorem realizes_requests : Realizes Replacement.requests Target.units Target.effects := by
  rintro ⟨target, start, stop⟩ before covered after nonempty behind rfl rfl
  have deletes := Request.apply_deleteRange before after nonempty
  cases target with
  | link link => exact applyBatch_cons deletes (applyBatch_linkRequests link behind)
  | image image =>
      have inserts := Request.apply_insertImage before image.uri behind
      exact applyBatch_cons deletes (applyBatch_cons inserts (applyBatch_nil _))

theorem realizes_fallback :
    Realizes Replacement.fallbackRequests Target.fallbackUnits Target.fallbackEffects := by
  rintro ⟨target, start, stop⟩ before covered after nonempty behind rfl rfl
  have deletes := Request.apply_deleteRange before after nonempty
  cases target with
  | link link => exact applyBatch_cons deletes (applyBatch_linkRequests link behind)
  | image image =>
      have inserts := Request.apply_insertText_at before image.fallback behind
      exact applyBatch_cons deletes (applyBatch_cons inserts (applyBatch_nil _))

/-- Carried out from the highest index down, replacements change the buffer as its cut says. -/
theorem Cut.applyBatch {act : Replacement → List Request} {units : Target → Buffer}
    {effects : Target → Effects} (realizes : Realizes act units effects) {index : Nat}
    {buffer shown : Buffer} {replacements : List Replacement}
    (cut : Cut units index buffer replacements shown) (before tail : Buffer)
    (begins : index = before.width + 1) (behind : tail ≠ []) :
    Docs.applyBatch (before ++ (buffer ++ tail)) (replacements.reverse.flatMap act) =
      .ok (before ++ (shown ++ tail),
        ⟨replacements.reverse.flatMap fun item => (effects item.target).styled,
          replacements.reverse.flatMap fun item => (effects item.target).images⟩) := by
  induction cut generalizing before with
  | done index rest => rfl
  | piece spans starts stops following step =>
      rename_i index gap covered rest shown replacement replacements
      have later := step (before ++ gap ++ covered) (by simp only [Buffer.width_append]; omega)
      have here := realizes replacement (before ++ gap) covered (shown ++ tail) spans.ne_nil
        (by simp [behind]) (by rw [Buffer.width_append]; omega)
        (by rw [Buffer.width_append]; omega)
      simp only [List.reverse_cons, List.flatMap_append, List.flatMap_singleton]
      have both := applyBatch_append (by simpa using later) (by simpa using here)
      simpa using both

/-- The replacements of a chunk at the end of a plan change the end of the buffer only. -/
theorem Cut.exists_split {units : Target → Buffer} {index : Nat} {buffer shown : Buffer}
    {first second : List Replacement} (cut : Cut units index buffer (first ++ second) shown) :
    ∃ early late earlyShown lateShown, buffer = early ++ late ∧ shown = earlyShown ++ lateShown ∧
      Cut units index early first earlyShown ∧
      Cut units (index + early.width) late second lateShown := by
  induction first generalizing index buffer shown with
  | nil => exact ⟨[], buffer, [], shown, rfl, rfl, .done index [], cut⟩
  | cons replacement first step =>
      cases cut with
      | piece spans starts stops following =>
          rename_i gap covered rest restShown
          rcases step following with
            ⟨early, late, earlyShown, lateShown, rfl, rfl, earlyCut, lateCut⟩
          refine ⟨gap ++ (covered ++ early), late, gap ++ (units replacement.target ++ earlyShown),
            lateShown, by simp, by simp, .piece spans starts stops earlyCut, ?_⟩
          have indices : index + Buffer.width (gap ++ (covered ++ early)) =
              replacement.stop + early.width := by
            simp only [Buffer.width_append]
            omega
          rwa [indices]

/-- A buffer keeps its shape when tokens in it are replaced by inline units. -/
theorem Cut.reads {units : Target → Buffer} (inline : ∀ target, ∀ unit ∈ units target,
      unit.isInline = true) {index : Nat} {buffer shown : Buffer}
    {replacements : List Replacement} (cut : Cut units index buffer replacements shown)
    (noBreak : ∀ item ∈ replacements, '\n' ∉ item.target.token) {mode : Mode} {tail : Buffer}
    (reads : mode.after? (buffer ++ tail) = some (.body false)) :
    mode.after? (shown ++ tail) = some (.body false) := by
  induction cut generalizing mode with
  | done index rest => exact reads
  | piece spans starts stops following step =>
      rename_i index gap covered rest shown replacement replacements
      rw [List.append_assoc] at reads ⊢
      rcases Mode.exists_between reads with ⟨middle, readsGap, readsRest⟩
      rw [Mode.after?_append_some readsGap]
      rcases spans.begins with ⟨character, others, begins⟩
      have oneLine : BodyUnit.lineFeed ∉ covered := by
        intro mem
        refine noBreak replacement List.mem_cons_self ?_
        rw [← spans.spelled]
        exact List.mem_filterMap.mpr ⟨.lineFeed, mem, rfl⟩
      rw [List.append_assoc] at readsRest
      rcases Mode.after?_replace begins oneLine (inline replacement.target) readsRest with
        ⟨reached, replaced, permits⟩
      rw [permits.eq_of_body_closed] at replaced
      rcases Mode.exists_between replaced with ⟨behind, readsUnits, readsOn⟩
      rw [List.append_assoc, Mode.after?_append_some readsUnits]
      exact step (fun item mem => noBreak item (List.mem_cons_of_mem _ mem)) readsOn

/-- Some tokens cut a buffer in the same places, whatever stands for them. -/
theorem Cut.retarget {units : Target → Buffer} (other : Target → Buffer) {index : Nat}
    {buffer shown : Buffer} {replacements : List Replacement}
    (cut : Cut units index buffer replacements shown) : ∃ shown, Cut other index buffer replacements shown := by
  induction cut with
  | done index rest => exact ⟨rest, .done index rest⟩
  | piece spans starts stops following step =>
      rcases step with ⟨shown, further⟩
      exact ⟨_, .piece spans starts stops further⟩

/-- A document stays well formed when tokens in it are replaced by inline units. -/
theorem Cut.wellFormed {units : Target → Buffer} (inline : ∀ target, ∀ unit ∈ units target,
      unit.isInline = true) {index : Nat} {buffer shown : Buffer}
    {replacements : List Replacement} (cut : Cut units index buffer replacements shown)
    (noBreak : ∀ item ∈ replacements, '\n' ∉ item.target.token) {early tail : Buffer}
    (behind : tail ≠ []) (wellFormed : (early ++ (buffer ++ tail)).WellFormed) :
    (early ++ (shown ++ tail)).WellFormed := by
  rcases Mode.exists_between wellFormed.reads with ⟨mode, readsEarly, reads⟩
  refine ⟨?_, ?_⟩
  · rw [Mode.after?_append_some readsEarly]
    exact cut.reads inline noBreak reads
  · rcases wellFormed.ends with ⟨body, ends⟩
    have last := congrArg List.getLast? ends
    rw [← List.append_assoc, List.getLast?_append_of_ne_nil _ behind, List.getLast?_concat] at last
    rcases List.getLast?_eq_some_iff.mp last with ⟨front, rfl⟩
    exact ⟨early ++ (shown ++ front), by simp⟩

end DocBinder
