import DocBinder.Proofs.Replacement.Unique
import DocBinder.Proofs.Steps

/-!
# Sending replacements in chunks

All chunks of a plan are computed from one snapshot. A chunk may be refused, and is then sent again
with its images as text. Since the chunks are cut from a plan that goes from the highest index down,
none of them moves what those behind it are about, whichever of them are refused: one after another,
they come to what replacing all tokens at once comes to.
-/

namespace DocBinder

open Docs

/-! ## Cuts in parts -/

namespace Cut

variable {units other : Target → Buffer} {index : Nat} {buffer shown first firstShown second
  secondShown : Buffer} {replacements early late : List Replacement}

/-- Only what stands for the replaced tokens matters. -/
theorem congr (cut : Cut units index buffer replacements shown)
    (same : ∀ item ∈ replacements, units item.target = other item.target) :
    Cut other index buffer replacements shown := by
  induction cut with
  | done index rest => exact .done index rest
  | piece spans starts stops following step =>
      rw [same _ List.mem_cons_self]
      exact .piece spans starts stops
        (step fun item mem => same item (List.mem_cons_of_mem _ mem))

/-- Behind what stays as it is, tokens are replaced. -/
theorem behind (gap : Buffer) (cut : Cut units (index + gap.width) buffer replacements shown) :
    Cut units index (gap ++ buffer) replacements (gap ++ shown) := by
  generalize begins : index + gap.width = start at cut
  cases cut with
  | done => exact .done index _
  | piece spans starts stops following =>
      rw [← List.append_assoc, ← List.append_assoc gap]
      exact .piece spans (by rw [starts, ← begins, Buffer.width_append, Nat.add_assoc]) stops
        following

theorem append (cut : Cut units index first early firstShown)
    (further : Cut units (index + first.width) second late secondShown) :
    Cut units index (first ++ second) (early ++ late) (firstShown ++ secondShown) := by
  induction cut with
  | done index rest => exact further.behind rest
  | piece spans starts stops following step =>
      rename_i index gap covered rest shown replacement replacements
      have indices : index + Buffer.width (gap ++ (covered ++ rest)) =
          replacement.stop + rest.width := by
        simp only [Buffer.width_append]
        omega
      rw [indices] at further
      simp only [List.append_assoc]
      exact .piece spans starts stops (step further)

/-- The ranges of replacements that cut a buffer are not empty, and lie one behind the other. -/
theorem apart (cut : Cut units index buffer replacements shown) :
    (∀ item ∈ replacements, item.start < item.stop) ∧
      replacements.Pairwise fun first second => first.stop ≤ second.start := by
  refine ⟨?_, ?_⟩
  · intro item mem
    rcases cut.exists_spans item mem with ⟨_, _, _, _, spans, _, stops⟩
    have positive := Buffer.width_pos spans.ne_nil
    omega
  · induction cut with
    | done index rest => exact .nil
    | piece spans starts stops following step =>
        refine .cons (fun item mem => ?_) step
        rcases following.exists_spans item mem with ⟨_, _, _, _, _, begins, _⟩
        omega

end Cut

/-! ## Batches one after another -/

namespace Docs

/-- Batches, each applied to what the ones before have made. -/
def applyBatches (buffer : Buffer) : List (List Request) → Except Failure (Buffer × Effects)
  | [] => .ok (buffer, ⟨[], []⟩)
  | batch :: rest => do
      let (next, early) ← applyBatch buffer batch
      let (final, late) ← applyBatches next rest
      return (final, ⟨early.styled ++ late.styled, early.images ++ late.images⟩)

/-- A batch that can be applied can be applied in two parts. -/
theorem exists_of_applyBatch_append {buffer final : Buffer} {first second : List Request}
    {effects : Effects} (applies : applyBatch buffer (first ++ second) = .ok (final, effects)) :
    ∃ next early late, applyBatch buffer first = .ok (next, early) ∧
      applyBatch next second = .ok (final, late) ∧
      effects = ⟨early.styled ++ late.styled, early.images ++ late.images⟩ := by
  induction first generalizing buffer effects with
  | nil => exact ⟨buffer, ⟨[], []⟩, effects, rfl, applies, rfl⟩
  | cons request rest step =>
      rcases Except.exists_of_bind_eq_ok applies with ⟨⟨middle, here⟩, head, applies⟩
      rcases Except.exists_of_bind_eq_ok applies with ⟨⟨reached, further⟩, tail, result⟩
      cases result
      rcases step tail with ⟨next, early, late, begins, ends, rfl⟩
      exact ⟨next, _, late, applyBatch_cons head begins, ends, by simp⟩

/-- What can be applied in one batch can be applied in several. -/
theorem applyBatches_of_flatten {buffer final : Buffer} {batches : List (List Request)}
    {effects : Effects} (applies : applyBatch buffer batches.flatten = .ok (final, effects)) :
    applyBatches buffer batches = .ok (final, effects) := by
  induction batches generalizing buffer effects with
  | nil => exact applies
  | cons batch rest step =>
      rw [List.flatten_cons] at applies
      rcases exists_of_applyBatch_append applies with ⟨next, early, late, begins, ends, rfl⟩
      simp only [applyBatches, begins, step ends, bind, Except.bind, pure, Except.pure]

end Docs

/-! ## Chunks that were sent -/

/-- A chunk of replacements that was sent, and whether it was refused at first. -/
structure SentChunk where
  items : List Replacement
  refused : Bool

namespace SentChunk

/-- The requests that were accepted of a chunk. -/
def requests (chunk : SentChunk) : List Request :=
  if chunk.refused then chunkFallback chunk.items else chunkRequests chunk.items

/-- What a chunk puts in the place of a token. -/
def units (chunk : SentChunk) : Target → Buffer :=
  if chunk.refused then Target.fallbackUnits else Target.units

end SentChunk

/-- Whether a target is one of a chunk that was refused. -/
def isRefused (sent : List SentChunk) (target : Target) : Bool :=
  sent.any fun chunk => chunk.refused && chunk.items.any (·.target == target)

/-- What chunks put in the place of a token. -/
def sentUnits (sent : List SentChunk) (target : Target) : Buffer :=
  if isRefused sent target then target.fallbackUnits else target.units

/-- What a service notes when chunks put something in the place of a token. -/
def sentEffects (sent : List SentChunk) (target : Target) : Effects :=
  if isRefused sent target then target.fallbackEffects else target.effects

/-- The requests by which chunks replace a token. -/
def sentRequests (sent : List SentChunk) (replacement : Replacement) : List Request :=
  if isRefused sent replacement.target then replacement.fallbackRequests else replacement.requests

theorem realizes_sent (sent : List SentChunk) :
    Realizes (sentRequests sent) (sentUnits sent) (sentEffects sent) := by
  intro replacement before covered after nonempty behind starts stops
  rw [sentRequests, sentUnits, sentEffects]
  split
  · exact realizes_fallback replacement before covered after nonempty behind starts stops
  · exact realizes_requests replacement before covered after nonempty behind starts stops

theorem isRefused_of_not_mem {sent : List SentChunk} {target : Target}
    (absent : target ∉ (sent.flatMap (·.items)).map (·.target)) : isRefused sent target = false := by
  rw [isRefused, List.any_eq_false]
  intro chunk isSent refused
  rw [Bool.and_eq_true, List.any_eq_true] at refused
  rcases refused.2 with ⟨item, mem, same⟩
  refine absent (List.mem_map.mpr ⟨item, List.mem_flatMap.mpr ⟨chunk, isSent, mem⟩, ?_⟩)
  exact beq_iff_eq.mp same

/-- A target that is replaced once is refused with its own chunk. -/
theorem isRefused_eq {sent : List SentChunk}
    (differ : ((sent.flatMap (·.items)).map (·.target)).Nodup) {chunk : SentChunk}
    (isSent : chunk ∈ sent) {item : Replacement} (mem : item ∈ chunk.items) :
    isRefused sent item.target = chunk.refused := by
  induction sent with
  | nil => cases isSent
  | cons head rest step =>
      rw [List.flatMap_cons, List.map_append, List.nodup_append] at differ
      rcases differ with ⟨_, restDiffer, apart⟩
      have split : isRefused (head :: rest) item.target =
          (head.refused && head.items.any (·.target == item.target) || isRefused rest item.target) :=
        rfl
      rw [split]
      rcases List.mem_cons.mp isSent with rfl | isSent
      · have here : chunk.items.any (·.target == item.target) = true :=
          List.any_eq_true.mpr ⟨item, mem, beq_self_eq_true _⟩
        rw [here, Bool.and_true, isRefused_of_not_mem, Bool.or_false]
        exact fun later => apart _ (List.mem_map_of_mem mem) _ later rfl
      · have elsewhere : head.items.any (·.target == item.target) = false := by
          rw [List.any_eq_false]
          intro other otherMem same
          refine apart _ (List.mem_map_of_mem otherMem) item.target ?_ (beq_iff_eq.mp same)
          exact List.mem_map_of_mem (List.mem_flatMap.mpr ⟨chunk, isSent, mem⟩)
        rw [elsewhere, Bool.and_false, Bool.false_or]
        exact step restDiffer isSent

section Sent

variable {sent : List SentChunk} (differ : ((sent.flatMap (·.items)).map (·.target)).Nodup)

include differ

theorem flatten_requests :
    (sent.map SentChunk.requests).flatten = (sent.flatMap (·.items)).flatMap (sentRequests sent) := by
  rw [← List.flatMap_def, List.flatMap_assoc]
  refine List.flatMap_congr fun chunk isSent => ?_
  have each : ∀ item ∈ chunk.items, sentRequests sent item =
      if chunk.refused then item.fallbackRequests else item.requests := by
    intro item mem
    rw [sentRequests, isRefused_eq differ isSent mem]
  rw [List.flatMap_congr each, SentChunk.requests]
  split <;> rfl

theorem sentUnits_eq {chunk : SentChunk} (isSent : chunk ∈ sent) {item : Replacement}
    (mem : item ∈ chunk.items) : sentUnits sent item.target = chunk.units item.target := by
  rw [sentUnits, isRefused_eq differ isSent mem, SentChunk.units]
  split <;> rfl

/-- One after another, the chunks replace all tokens of a buffer. -/
theorem Cut.applyBatches_sent {buffer shown tail : Buffer}
    (cut : Cut (sentUnits sent) 1 buffer (sent.flatMap (·.items)).reverse shown)
    (behind : tail ≠ []) :
    applyBatches (buffer ++ tail) (sent.map SentChunk.requests) =
      .ok (shown ++ tail,
        ⟨(sent.flatMap (·.items)).flatMap fun item => (sentEffects sent item.target).styled,
          (sent.flatMap (·.items)).flatMap fun item => (sentEffects sent item.target).images⟩) := by
  have applies := cut.applyBatch (realizes_sent sent) [] tail rfl behind
  rw [List.reverse_reverse, ← flatten_requests differ] at applies
  exact applyBatches_of_flatten applies

end Sent

/-- What stands before a chunk is cut by the chunks that follow it. -/
theorem Cut.cons_sent {chunk : SentChunk} {sent : List SentChunk}
    (differ : (((chunk :: sent).flatMap (·.items)).map (·.target)).Nodup) {index : Nat}
    {front frontShown late lateShown : Buffer}
    (cut : Cut (sentUnits sent) index front (sent.flatMap (·.items)).reverse frontShown)
    (further : Cut chunk.units (index + front.width) late chunk.items.reverse lateShown) :
    Cut (sentUnits (chunk :: sent)) index (front ++ late)
      ((chunk :: sent).flatMap (·.items)).reverse (frontShown ++ lateShown) := by
  have restDiffer : ((sent.flatMap (·.items)).map (·.target)).Nodup := by
    rw [List.flatMap_cons, List.map_append] at differ
    exact (List.nodup_append.mp differ).2.1
  rw [List.flatMap_cons, List.reverse_append]
  refine (cut.congr fun item mem => ?_).append (further.congr fun item mem => ?_)
  · rcases List.mem_flatMap.mp (List.mem_reverse.mp mem) with ⟨other, isSent, mem⟩
    rw [sentUnits_eq differ (List.mem_cons_of_mem _ isSent) mem, sentUnits_eq restDiffer isSent mem]
  · rw [sentUnits_eq differ List.mem_cons_self (List.mem_reverse.mp mem)]

/-- If no chunk was refused, every token is replaced by what its target is. -/
theorem sentUnits_of_accepted {sent : List SentChunk} (accepted : ∀ chunk ∈ sent, chunk.refused = false) :
    sentUnits sent = Target.units := by
  have none (target : Target) : isRefused sent target = false := by
    rw [isRefused, List.any_eq_false]
    intro chunk isSent
    rw [accepted chunk isSent]
    exact Bool.false_ne_true
  funext target
  rw [sentUnits, none]
  rfl

/-- What chunks put in the place of a token shows its target or is its text. -/
theorem sentUnits_cases (sent : List SentChunk) (target : Target) :
    sentUnits sent target = target.units ∨ sentUnits sent target = target.fallbackUnits := by
  rw [sentUnits]
  split
  · exact .inr rfl
  · exact .inl rfl

/-- Replacing tokens in a buffer by chunks of a size: the tokens of just those targets that stand once
in its text are replaced, and some of the chunks with images are refused and put in text for them. -/
def SubstitutesSent (size : Nat) (targets : List Target) (buffer shown : Buffer) : Prop :=
  ∃ (hits : List Replacement) (sent : List SentChunk), Cut (sentUnits sent) 1 buffer hits shown ∧
    (hits.map (·.target)).Nodup ∧
    (∀ target, target ∈ hits.map (·.target) ↔
      target ∈ targets ∧ target.token.StandsOnce buffer.text) ∧
    sent.map (·.items) = chunks size hits.reverse ∧
    ∀ chunk ∈ sent, chunk.refused = true → chunk.items.any Replacement.isImage = true

/-- Without images, no chunk is refused. -/
theorem SubstitutesSent.substitutes {size : Nat} {links : List Link} {buffer shown : Buffer}
    (sends : SubstitutesSent size (targets links []) buffer shown) :
    Substitutes (targets links []) buffer shown := by
  rcases sends with ⟨hits, sent, cut, differ, all, items, refusal⟩
  refine ⟨hits, ?_, differ, all⟩
  rw [← sentUnits_of_accepted]
  · exact cut
  · intro chunk isSent
    rw [← Bool.not_eq_true]
    intro refused
    rcases List.any_eq_true.mp (refusal chunk isSent refused) with ⟨item, mem, isImage⟩
    have isHit : item ∈ hits := by
      rw [← List.mem_reverse, ← flatten_chunks size hits.reverse, ← items]
      exact List.mem_flatten.mpr ⟨_, List.mem_map_of_mem isSent, mem⟩
    have isTarget := ((all _).mp (List.mem_map_of_mem isHit)).1
    rw [targets, List.map_nil, List.append_nil] at isTarget
    rcases List.mem_map.mp isTarget with ⟨link, _, isLink⟩
    rw [Replacement.isImage, ← isLink] at isImage
    cases isImage

end DocBinder
