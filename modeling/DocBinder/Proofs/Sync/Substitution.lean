import DocBinder.Proofs.Sync.Runs

/-!
# Replacing all tokens at once

Whatever document has been reached, a plan for it finds the tokens that stand once in its flat text,
and its chunks, sent one after another, come to what replacing all these tokens at once comes to. Which
chunks a service refuses decides about the images in them, and about nothing else.
-/

namespace DocBinder

open Docs

/-- A plan finds just the targets whose tokens stand once in a flat text, each of them once. Its ranges
are not empty, and go down from the highest index without overlapping. -/
structure Plans (items : List Target) (flat : FlatText) (planned : List Replacement) : Prop where
  all : ∀ target, target ∈ planned.map (·.target) ↔
    target ∈ items ∧ target.token.StandsOnce flat.text
  differ : (planned.map (·.target)).Nodup
  ranges : ∀ item ∈ planned, item.start < item.stop
  descends : planned.Pairwise fun first second => second.stop ≤ first.start

theorem styled_sentEffects (sent : List SentChunk) (target : Target) :
    (sentEffects sent target).styled = target.effects.styled := by
  rw [sentEffects]
  split
  · cases target <;> rfl
  · rfl

namespace Sync

section Plan

variable {body : Buffer} (wellFormed : (body ++ [BodyUnit.lineFeed] : Buffer).WellFormed)
  {links : List Link} {images : List Image}
  (areTokens : ∀ target ∈ targets links images, target.token.IsToken)
  (differ : ((targets links images).map Target.token).Nodup) (documentId title : String)

include wellFormed areTokens differ

theorem plans_planReplacements :
    Plans (targets links images) ((Buffer.view (body ++ [BodyUnit.lineFeed]) documentId title).flatten true)
      (planReplacements links images
        (Buffer.view (body ++ [BodyUnit.lineFeed]) documentId title)).replacements := by
  have flat := Buffer.flatten_view_all wellFormed documentId title
  have ascending := ascending_plan differ areTokens flat
  rcases ascending.exists_cut differ Target.units with ⟨shown, cut⟩
  have reversed := ascending.differ
  rw [List.map_reverse, List.nodup_reverse] at reversed
  refine ⟨fun target => ?_, reversed, fun item mem => cut.apart.1 item (List.mem_reverse.mpr mem),
    List.pairwise_reverse.mp cut.apart.2⟩
  have text : FlatText.text ⟨unitMarks 1 (body ++ [BodyUnit.lineFeed])⟩ =
      Buffer.text (body ++ [BodyUnit.lineFeed]) := map_fst_unitMarks 1 _
  rw [flat, text, ← ascending.all, List.map_reverse, List.mem_reverse]

/-- Whichever chunks of a plan are refused, the chunks replace its tokens all at once. -/
theorem exists_applyBatches {sent : List SentChunk} {size : Nat}
    (all : sent.map (·.items) = chunks size (planReplacements links images
      (Buffer.view (body ++ [BodyUnit.lineFeed]) documentId title)).replacements) :
    let planned := (planReplacements links images
      (Buffer.view (body ++ [BodyUnit.lineFeed]) documentId title)).replacements
    ∃ shown : Buffer, Cut (sentUnits sent) 1 (body ++ [BodyUnit.lineFeed]) planned.reverse shown ∧
      applyBatches (body ++ [BodyUnit.lineFeed]) (sent.map SentChunk.requests) =
        .ok (shown, ⟨planned.flatMap fun item => item.target.effects.styled,
          planned.flatMap fun item => (sentEffects sent item.target).images⟩) := by
  intro planned
  have items : sent.flatMap (·.items) = planned := by
    rw [List.flatMap_def, all, flatten_chunks]
  have plans := plans_planReplacements wellFormed areTokens differ documentId title
  have ascending := ascending_plan differ areTokens
    (Buffer.flatten_view_all wellFormed documentId title)
  rcases ascending.exists_cut differ (sentUnits sent) with ⟨shown, cut⟩
  have applies := Cut.applyBatches_sent (by rw [items]; exact plans.differ) (by rwa [items])
    (List.cons_ne_nil .lineFeed [])
  simp only [items, styled_sentEffects] at applies
  exact ⟨_, cut.append_tail [BodyUnit.lineFeed], applies⟩

end Plan

/-- Whatever the service holds and whatever is put for tokens, all different, the plan finds those
that stand once. Its chunks, of whatever size and whichever of them are refused, replace the units from
the first to the last character of each of these tokens, all at once, and leave the others; every link
that is styled is styled over its text. Sent by a coordinator, with any faults, the chunks either fail
or come to this, where only chunks with images are refused. -/
theorem substitutes_planned {service : Service} (reachable : Service.contract.Reachable service)
    {documentId : String} {buffer : Buffer} (stands : service.body? documentId = some buffer)
    (title : String) {links : List Link} {images : List Image}
    (areTokens : ∀ target ∈ targets links images, target.token.IsToken)
    (differ : ((targets links images).map Target.token).Nodup) (size : Nat) :
    let planned := (planReplacements links images (buffer.view documentId title)).replacements
    Plans (targets links images) ((buffer.view documentId title).flatten true) planned ∧
    (∀ sent : List SentChunk, sent.map (·.items) = chunks size planned →
      ∃ shown : Buffer, Cut (sentUnits sent) 1 buffer planned.reverse shown ∧
        applyBatches buffer (sent.map SentChunk.requests) =
          .ok (shown, ⟨planned.flatMap fun item => item.target.effects.styled,
            planned.flatMap fun item => (sentEffects sent item.target).images⟩)) ∧
    ∀ (coordinator : Coordinator Service) (session : Session Service) (outcome : Outcome),
      coordinator.remote = Service.remote → session.remote = service →
      Meets (coordinator.submitChunks documentId (chunks size planned)) (session, outcome)
        (fun _ reached => ∃ (sent : List SentChunk) (shown : Buffer),
          sent.map (·.items) = chunks size planned ∧
          (∀ chunk ∈ sent, chunk.refused = true →
            chunk.items.any Replacement.isImage = true) ∧
          Cut (sentUnits sent) 1 buffer planned.reverse shown ∧
          reached.1.remote.body? = Function.update service.body? documentId (some shown))
        (fun failure reached => Service.contract.Troubled failure service reached.1.remote) := by
  have wellFormed := reachable.sound documentId buffer stands
  rcases wellFormed.ends with ⟨body, rfl⟩
  intro planned
  have plans := plans_planReplacements wellFormed areTokens differ documentId title
  refine ⟨plans, fun sent => exists_applyBatches wellFormed areTokens differ documentId title, ?_⟩
  rintro ⟨remote, languages, setup, chunkSize, now⟩ session outcome rfl rfl
  have ascending := ascending_plan differ areTokens
    (Buffer.flatten_view_all wellFormed documentId title)
  rcases ascending.exists_cut differ Target.units with ⟨shown, cut⟩
  have noBreak : ∀ item ∈ planned, '\n' ∉ item.target.token := fun item mem =>
    (ascending.hit item (List.mem_reverse.mpr mem)).isToken.lineFeed_not_mem
  have holds := @Holds.refl Service ⟨Service.remote, languages, setup, chunkSize, now⟩
    Service.contract documentId session _ stands
  have submits := @Coordinator.meets_submitChunks Service ⟨Service.remote, languages, setup,
    chunkSize, now⟩ Service.contract documentId session session outcome body [BodyUnit.lineFeed]
    (chunks size planned) shown (by rwa [flatten_chunks]) (List.cons_ne_nil _ _)
    (by rw [flatten_chunks]; exact plans.differ) (by rwa [flatten_chunks]) wellFormed holds
  refine submits.mono ?_ ?_
  · rintro _ reached ⟨_, sent, left, all, _, holds, leftCut, fellBack⟩
    rw [flatten_chunks] at leftCut
    refine ⟨sent, left ++ [BodyUnit.lineFeed], all, fun chunk isSent refused =>
      (fellBack chunk isSent refused).1, leftCut.append_tail [BodyUnit.lineFeed], ?_⟩
    exact holds.bodies
  · rintro failure reached ⟨_, _, fails, _⟩
    exact fails.troubled

/-- A text with the tokens of a link and of an image. -/
def tokenText : Text :=
  "a [[[LINK_0]]] b [[[IMAGE_0]]]".toList

theorem substitutes_planned_tokenText :
    let links : List Link := [⟨Placeholder.token .link 0, ['x'], "https://x.org".toList, true⟩]
    let images : List Image := [⟨Placeholder.token .image 0, "https://y.org".toList, ['y'], .image⟩]
    let planned := (planReplacements links images
      (Buffer.view (.ofText tokenText) "handbook" "Handbook")).replacements
    Plans (targets links images)
        ((Buffer.view (.ofText tokenText) "handbook" "Handbook").flatten true) planned ∧
      ∀ sent : List SentChunk, sent.map (·.items) = chunks 1 planned →
        ∃ shown : Buffer, Cut (sentUnits sent) 1 (.ofText tokenText) planned.reverse shown ∧
          applyBatches (.ofText tokenText) (sent.map SentChunk.requests) =
            .ok (shown, ⟨planned.flatMap fun item => item.target.effects.styled,
              planned.flatMap fun item => (sentEffects sent item.target).images⟩) := by
  intro links images planned
  have areTokens : ∀ target ∈ targets links images, target.token.IsToken := by
    intro target mem
    simp only [targets, links, images, List.map_cons, List.map_nil, List.cons_append,
      List.nil_append, List.mem_cons, List.not_mem_nil, or_false] at mem
    rcases mem with rfl | rfl <;> exact Placeholder.isToken_token _ _
  have stands : (Service.ofTexts [("handbook", "Handbook", tokenText)] .none).body? "handbook" =
    some (.ofText tokenText) := rfl
  have parts := substitutes_planned (Service.reachable_ofTexts _ _) stands "Handbook" areTokens
    (by decide) 1
  exact ⟨parts.1, parts.2.1⟩

/-- A document with an image between the characters of a token. -/
def splitToken : SourceDocument :=
  ⟨"a.md", "A", "[[[LI![x](https://y.org/x.png)NK_0]]]\n".toList, "", none⟩

/-- The image that stands between the characters of a token is deleted with it. -/
theorem not_leavesImages :
    ∃ (service : Service) (buffer final : Buffer),
      Service.contract.Reachable service ∧ service.body? "handbook" = some buffer ∧
      (applyBatches buffer ((chunks 1 (planReplacements
        [⟨Placeholder.token .link 0, ['x'], "https://x.org".toList, true⟩] []
        (buffer.view "handbook" "Handbook")).replacements).map chunkRequests)).toOption.map (·.1) =
          some final ∧
      .image "https://y.org/x.png".toList ∈ buffer ∧
      .image "https://y.org/x.png".toList ∉ final := by
  let session := ((Coordinator.plain.writeAll [splitToken] "handbook").run (.onText [] .none)).2
  have reachable : Service.contract.Reachable session.remote :=
    .write [splitToken] (Service.reachable_ofTexts _ _) rfl rfl
  have stands : session.remote.body? "handbook" =
      some ("[[[LI".toList.map .char ++ .image "https://y.org/x.png".toList ::
        "NK_0]]]\n\n".toList.map .char) := by
    decide +kernel
  refine ⟨_, _, "x\n\n".toList.map .char, reachable, stands, ?_⟩
  decide +kernel

end Sync

end DocBinder
