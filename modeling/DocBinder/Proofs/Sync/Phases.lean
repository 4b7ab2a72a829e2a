import DocBinder.Proofs.Formatting.Resolve
import DocBinder.Proofs.Replacement.Chunks
import DocBinder.Proofs.Replacement.Render
import DocBinder.Proofs.Sync.Contract

/-!
# The phases of a document

What each phase makes of the buffer of a document. Content is appended, tables are filled, the
texts are only styled, and the tokens that stand once are replaced; every batch on the way fits the
buffer that it is sent for. Only a chunk of replacements that fails may be sent in another form, so
that a buffer other than the one that was meant tells of a failed call.
-/

namespace DocBinder.Sync.Coordinator

open Docs

variable {σ : Type} {coordinator : Coordinator σ} {contract : coordinator.remote.Contract}
  {documentId : String} {origin session : Session σ} {outcome : Outcome} {body : Buffer}

section Content

variable {compiled : Compiled}
  (outline : Outline 0 0 compiled.requests compiled.directives compiled.tables compiled.offsets)
  (wellFormed : (body ++ [BodyUnit.lineFeed] : Buffer).WellFormed)

include wellFormed outline

/-- The content is appended empty of table texts. -/
theorem meets_applyContent (path : String)
    (holds : Holds contract documentId origin (body ++ [BodyUnit.lineFeed]) session) :
    Meets (coordinator.applyContent documentId path compiled) (session, outcome)
      (fun value reached => Holds contract documentId origin
          (body ++ (compiled.requests.flatMap Request.units ++ [BodyUnit.lineFeed])) reached.1 ∧
        reached.2.phase = .contentApplied ∧
        value = (body.width + 1, (tableMarks 1 (body ++ [BodyUnit.lineFeed])).length))
      (fun failure reached =>
        Fails contract documentId origin (body ++ [BodyUnit.lineFeed]) failure reached.1) := by
  refine .bind ((meets_snapshot holds).mono ?_ fun _ _ fails => fails)
  rintro snapshot ⟨session, outcome⟩ ⟨holds, rfl, title, rfl⟩
  refine .bind (.reportDocument _ ?_)
  refine .bind ((meets_submit (holds.log _) (outline.appends.applyBatch body .lineFeed)).mono ?_
    fun _ _ fails => fails.1)
  rintro _ ⟨session, outcome⟩ ⟨holds, _⟩
  refine .bind (.reach _ (.pure _ ⟨holds, rfl, ?_⟩))
  rw [Buffer.endIndex_view wellFormed, Buffer.tables_view wellFormed, List.length_map,
    Buffer.endIndex, Buffer.width_append]
  have single : Buffer.width [BodyUnit.lineFeed] = 1 := rfl
  rw [single, show max 1 (body.width + 1 + 1 - 1) = body.width + 1 by omega]

/-- The tables of the content are filled. -/
theorem meets_populateTables
    (holds : Holds contract documentId origin
      (body ++ (compiled.requests.flatMap Request.units ++ [BodyUnit.lineFeed])) session) :
    Meets (coordinator.populateTables documentId compiled
        (tableMarks 1 (body ++ [BodyUnit.lineFeed])).length) (session, outcome)
      (fun _ reached => Holds contract documentId origin
          (body ++ (compiled.units ++ [BodyUnit.lineFeed])) reached.1 ∧
        reached.2.phase = .tablesPopulated)
      (fun failure reached => Fails contract documentId origin
        (body ++ (compiled.requests.flatMap Request.units ++ [BodyUnit.lineFeed])) failure reached.1) := by
  refine .bind ((meets_snapshot holds).mono ?_ fun _ _ fails => fails)
  rintro snapshot ⟨session, outcome⟩ ⟨holds, rfl, title, rfl⟩
  refine .bind (.reportDocument _ ?_)
  refine .bind (.reportDocument _ ?_)
  have applies := outline.appends.applyBatch_locateCells wellFormed documentId title
  rw [Buffer.tables_view wellFormed, List.length_map] at applies
  refine .bind ((meets_submit ((holds.log _).log _) applies).mono ?_ fun _ _ fails => fails.1)
  rintro _ ⟨session, outcome⟩ ⟨holds, _⟩
  exact .bind (.count _ (.reach _ ⟨holds, rfl⟩))

/-- The content is styled, and no directive is skipped. -/
theorem meets_format
    (holds : Holds contract documentId origin (body ++ (compiled.units ++ [BodyUnit.lineFeed])) session) :
    Meets (coordinator.format documentId compiled (body.width + 1)) (session, outcome)
      (fun _ reached => Holds contract documentId origin
          (body ++ (compiled.units ++ [BodyUnit.lineFeed])) reached.1 ∧ reached.2.phase = .formatted ∧
        reached.2.stats.directivesSkipped = 0)
      (fun failure reached => Fails contract documentId origin
        (body ++ (compiled.units ++ [BodyUnit.lineFeed])) failure reached.1) := by
  refine .bind ((meets_snapshot holds).mono ?_ fun _ _ fails => fails)
  rintro snapshot ⟨session, outcome⟩ ⟨holds, rfl, title, rfl⟩
  refine .bind (.reportDocument _ ?_)
  refine .bind (.reportDocument _ ?_)
  rcases outline.resolve wellFormed documentId title rfl with ⟨_, items, resolves, _, resolved⟩
  have all := congrArg List.length resolves.inOrder
  rw [List.length_map] at all
  have stylesAll : StylesOnly (body ++ (compiled.units ++ [BodyUnit.lineFeed]))
      (formattingRequests items) := by
    intro request mem
    rcases List.mem_flatMap.mp mem with ⟨item, isItem, mem⟩
    exact resolves.styles item isItem request mem
  rcases applyBatch_stylesOnly stylesAll with ⟨styled, applies⟩
  rw [resolved]
  refine .bind ((meets_submit ((holds.log _).log _) applies).mono ?_ fun _ _ fails => fails.1)
  rintro _ ⟨session, outcome⟩ ⟨holds, _⟩
  exact .bind (.count _ (.reach _ ⟨holds, rfl, by rw [← all]; exact Nat.sub_self _⟩))

end Content

/-! ## Replacements -/

variable (contract) (origin) (outcome) in
/-- A call has failed, and images were sent as text instead. -/
structure FellBack (reached : Session σ × Outcome) : Prop where
  more : outcome.stats.imagesFallback < reached.2.stats.imagesFallback
  troubled : ∃ failure, contract.Troubled failure origin.remote reached.1.remote

/-- Of the counts that matter, only that of images sent as text has changed, and has grown. -/
structure Proceeds (before after : Outcome) : Prop where
  fallback : before.stats.imagesFallback ≤ after.stats.imagesFallback
  skipped : after.stats.directivesSkipped = before.stats.directivesSkipped

theorem Proceeds.trans {first second third : Outcome} (proceeds : Proceeds first second)
    (further : Proceeds second third) : Proceeds first third :=
  ⟨Nat.le_trans proceeds.fallback further.fallback, further.skipped.trans proceeds.skipped⟩

section Chunks

variable {early late lateShown tail : Buffer} {index : Nat} {chunk : List Replacement}

/-- A chunk is realized where its tokens stand, as it is or with its images as text. -/
theorem meets_submitChunk (cut : Cut Target.units index late chunk.reverse lateShown)
    (begins : index = early.width + 1) (behind : tail ≠ [])
    (noBreak : ∀ item ∈ chunk.reverse, '\n' ∉ item.target.token)
    (wellFormed : (early ++ (late ++ tail)).WellFormed)
    (holds : Holds contract documentId origin (early ++ (late ++ tail)) session) :
    Meets (coordinator.submitChunk documentId chunk) (session, outcome)
      (fun _ reached => Proceeds outcome reached.2 ∧ ∃ refused shown,
        Holds contract documentId origin (early ++ (shown ++ tail)) reached.1 ∧
        (early ++ (shown ++ tail)).WellFormed ∧
        Cut (SentChunk.mk chunk refused).units index late chunk.reverse shown ∧
        (refused = true → chunk.any Replacement.isImage = true ∧
          FellBack contract origin outcome reached))
      (fun failure reached =>
        Fails contract documentId origin (early ++ (late ++ tail)) failure reached.1) := by
  have inlineUnits (target : Target) : ∀ unit ∈ target.units, unit.isInline = true := by
    cases target with
    | link item => exact Buffer.inline_chars _
    | image item => simp [Target.units, BodyUnit.isInline]
  have inlineFallback (target : Target) : ∀ unit ∈ target.fallbackUnits, unit.isInline = true := by
    cases target <;> exact Buffer.inline_chars _
  have applies := cut.applyBatch realizes_requests early tail begins behind
  rcases cut.retarget Target.fallbackUnits with ⟨spelled, spelledCut⟩
  have spelledApplies := spelledCut.applyBatch realizes_fallback early tail begins behind
  rw [List.reverse_reverse] at applies spelledApplies
  refine .bind (.tryCatch ?_)
  refine .bind ((meets_submit holds applies).mono ?_ ?_)
  · rintro _ ⟨session, reached⟩ ⟨holds, sent, rfl⟩
    refine .count _ (.count _ ⟨⟨Nat.le_refl _, rfl⟩, false, lateShown, holds,
      cut.wellFormed inlineUnits noBreak behind wellFormed, cut, ?_⟩)
    rintro ⟨⟩
  · rintro failure ⟨session, reached⟩ ⟨⟨holds, troubled⟩, rfl⟩
    split
    · exact .throw _ ⟨holds, troubled⟩
    · rename_i hasImages
      have more : 0 < chunk.countP Replacement.isImage := by
        simp only [Bool.or_eq_true, beq_iff_eq, not_or] at hasImages
        exact Nat.pos_of_ne_zero hasImages.2
      have images : chunk.any Replacement.isImage = true := by
        rw [List.any_eq_true]
        exact List.countP_pos_iff.mp more
      have again := Holds.refl holds.body
      refine .bind (.reportDocument _ (.bind ((meets_submit (again.log _) spelledApplies).mono ?_
        fun _ _ fails => holds.fails fails.1)))
      rintro _ ⟨session, reached⟩ ⟨following, sent, rfl⟩
      exact .count _ (.count _ ⟨⟨Nat.le_add_right _ _, rfl⟩, true, spelled, holds.trans following,
        spelledCut.wellFormed inlineFallback noBreak behind wellFormed, spelledCut,
        fun _ => ⟨images, Nat.lt_add_of_pos_right more, failure,
          contract.after troubled following.leads⟩⟩)

/-- Chunks of replacements, which cut what stands before a tail from its end on, are all realized,
some of them with their images as text. -/
theorem meets_submitChunks {list : List (List Replacement)} {shown : Buffer}
    (cut : Cut Target.units 1 early list.flatten.reverse shown) (behind : tail ≠ [])
    (differ : (list.flatten.map (·.target)).Nodup)
    (noBreak : ∀ item ∈ list.flatten, '\n' ∉ item.target.token)
    (wellFormed : (early ++ tail).WellFormed)
    (holds : Holds contract documentId origin (early ++ tail) session) :
    Meets (coordinator.submitChunks documentId list) (session, outcome)
      (fun _ reached => Proceeds outcome reached.2 ∧ ∃ (sent : List SentChunk) (left : Buffer),
        sent.map (·.items) = list ∧ (left ++ tail).WellFormed ∧
        Holds contract documentId origin (left ++ tail) reached.1 ∧
        Cut (sentUnits sent) 1 early list.flatten.reverse left ∧
        ∀ chunk ∈ sent, chunk.refused = true → chunk.items.any Replacement.isImage = true ∧
          FellBack contract origin outcome reached)
      (fun failure reached => ∃ left : Buffer, (left ++ tail).WellFormed ∧
        Fails contract documentId origin (left ++ tail) failure reached.1 ∧
        Renders (· ∈ list.flatten.map (·.target)) early left) := by
  induction list generalizing early tail shown origin session outcome with
  | nil =>
      cases cut
      exact .pure _ ⟨⟨Nat.le_refl _, rfl⟩, [], _, rfl, wellFormed, holds, .done _ _,
        fun chunk mem => absurd mem List.not_mem_nil⟩
  | cons chunk rest step =>
      rw [List.flatten_cons, List.reverse_append] at cut
      rcases cut.exists_split with
        ⟨front, late, frontShown, lateShown, rfl, rfl, frontCut, lateCut⟩
      rw [List.append_assoc] at holds wellFormed
      have chunkBreak : ∀ item ∈ chunk.reverse, '\n' ∉ item.target.token := fun item mem =>
        noBreak item (List.mem_append_left _ (List.mem_reverse.mp mem))
      have restDiffer : (rest.flatten.map (·.target)).Nodup := by
        rw [List.flatten_cons, List.map_append] at differ
        exact (List.nodup_append.mp differ).2.1
      refine .bind ((meets_submitChunk lateCut (by omega) behind chunkBreak wellFormed holds).mono
        ?_ fun _ _ fails => ⟨front ++ late, by rwa [List.append_assoc],
          by rwa [List.append_assoc], .done _⟩)
      rintro _ ⟨session, reached⟩ ⟨proceeds, refused, now, holds, wellFormed, nowCut, fellBack⟩
      have again := Holds.refl holds.body
      refine (step frontCut (by simp [behind]) restDiffer
        (fun item mem => noBreak item (List.mem_append_right _ mem)) wellFormed again).mono ?_ ?_
      · rintro _ ⟨session, final⟩ ⟨further, sent, left, rfl, wellFormed, following, leftCut, later⟩
        rw [← List.append_assoc] at wellFormed following
        have items : (chunk :: sent.map (·.items)).flatten =
            (⟨chunk, refused⟩ :: sent).flatMap SentChunk.items := by
          rw [List.flatMap_def]
          rfl
        rw [items] at differ ⊢
        rw [← List.flatMap_def] at leftCut
        refine ⟨proceeds.trans further, ⟨chunk, refused⟩ :: sent, left ++ now, rfl, wellFormed,
          holds.trans following, leftCut.cons_sent differ nowCut, ?_⟩
        intro other isSent isRefused
        rcases List.mem_cons.mp isSent with rfl | isSent
        · rcases fellBack isRefused with ⟨images, more, failure, troubled⟩
          exact ⟨images, Nat.lt_of_lt_of_le more further.fallback, failure,
            contract.after troubled following.leads⟩
        · rcases later other isSent isRefused with ⟨images, more, failure, troubled⟩
          exact ⟨images, Nat.lt_of_le_of_lt proceeds.fallback more, failure,
            contract.before holds.leads troubled⟩
      · rintro failure reached ⟨left, wellFormed, fails, frontRenders⟩
        rw [← List.append_assoc] at wellFormed fails
        have nowRenders := nowCut.renders fun target => by
          rw [SentChunk.units]
          split
          · exact .inr rfl
          · exact .inl rfl
        refine ⟨left ++ now, wellFormed, holds.fails fails, ?_⟩
        rw [List.flatten_cons, List.map_append]
        refine (frontRenders.imp fun _ mem => List.mem_append_right _ mem).append
          (nowRenders.imp fun _ mem => List.mem_append_left _ ?_)
        rwa [List.map_reverse, List.mem_reverse] at mem

end Chunks

/-! ## All phases -/

/-- A target of a document whose token stands once in a buffer. -/
def StandsIn (built : Placeholder.Built) (buffer : Buffer) (target : Target) : Prop :=
  target ∈ targets built.links built.images ∧ target.token.StandsOnce buffer.text

/-- What a document can leave behind a body, wherever its phases end: nothing, its content with
tables that are empty, or its whole content with some of its tokens replaced. -/
inductive Leaves (built : Placeholder.Built) (compiled : Compiled) (body : Buffer) :
    Buffer → Prop where
  | nothing : Leaves built compiled body body
  | empty : Leaves built compiled body (body ++ compiled.requests.flatMap Request.units)
  | whole {left : Buffer}
      (renders : Renders (StandsIn built (body ++ (compiled.units ++ [BodyUnit.lineFeed])))
        (body ++ compiled.units) left) : Leaves built compiled body left

section Phases

variable {built : Placeholder.Built}
  (differ : ((targets built.links built.images).map Target.token).Nodup)
  (areTokens : ∀ target ∈ targets built.links built.images, target.token.IsToken)

include differ areTokens

/-- The tokens that stand once are replaced, unless images were sent as text. -/
theorem meets_replaceTokens {title : String}
    (wellFormed : (body ++ [BodyUnit.lineFeed] : Buffer).WellFormed)
    (holds : Holds contract documentId origin (body ++ [BodyUnit.lineFeed]) session) :
    Meets (coordinator.replaceTokens documentId built
        (Buffer.view (body ++ [BodyUnit.lineFeed]) documentId title)) (session, outcome)
      (fun _ reached => Proceeds outcome reached.2 ∧
        ∃ left : Buffer, (left ++ [BodyUnit.lineFeed] : Buffer).WellFormed ∧
        Holds contract documentId origin (left ++ [BodyUnit.lineFeed]) reached.1 ∧
        Renders (StandsIn built (body ++ [BodyUnit.lineFeed])) body left ∧
        SubstitutesSent coordinator.chunkSize (targets built.links built.images)
          (body ++ [BodyUnit.lineFeed]) (left ++ [BodyUnit.lineFeed]) ∧
        (Substitutes (targets built.links built.images) (body ++ [BodyUnit.lineFeed])
            (left ++ [BodyUnit.lineFeed]) ∨
          FellBack contract origin outcome reached))
      (fun failure reached => ∃ left : Buffer, (left ++ [BodyUnit.lineFeed] : Buffer).WellFormed ∧
        Fails contract documentId origin (left ++ [BodyUnit.lineFeed]) failure reached.1 ∧
        Renders (StandsIn built (body ++ [BodyUnit.lineFeed])) body left) := by
  have ascending := ascending_plan differ areTokens
    (Buffer.flatten_view_all wellFormed documentId title)
  rcases ascending.exists_cut differ Target.units with ⟨shown, cut⟩
  have noBreak : ∀ item ∈ (planReplacements built.links built.images
      (Buffer.view (body ++ [BodyUnit.lineFeed]) documentId title)).replacements,
      '\n' ∉ item.target.token := fun item mem =>
    (ascending.hit item (List.mem_reverse.mpr mem)).isToken.lineFeed_not_mem
  have standing : ∀ target, target ∈ (planReplacements built.links built.images
      (Buffer.view (body ++ [BodyUnit.lineFeed]) documentId title)).replacements.map (·.target) →
      StandsIn built (body ++ [BodyUnit.lineFeed]) target := by
    intro target mem
    refine (ascending.all target).mp ?_
    rwa [List.map_reverse, List.mem_reverse]
  have differTargets : ((planReplacements built.links built.images
      (Buffer.view (body ++ [BodyUnit.lineFeed]) documentId title)).replacements.map (·.target)).Nodup := by
    have reversed := ascending.differ
    rwa [List.map_reverse, List.nodup_reverse] at reversed
  refine .bind (.reportDocument _ (.bind (.count _ ?_)))
  refine (meets_submitChunks (by rwa [flatten_chunks]) (List.cons_ne_nil _ _)
    (by rwa [flatten_chunks]) (by rwa [flatten_chunks]) wellFormed (holds.log _)).mono ?_ ?_
  · rintro _ reached ⟨proceeds, sent, left, items, wellFormed, holds, leftCut, fellBack⟩
    have renders := leftCut.renders (sentUnits_cases sent)
    rw [flatten_chunks] at leftCut renders
    refine ⟨⟨proceeds.fallback, proceeds.skipped⟩, left, wellFormed, holds,
      renders.imp fun target mem => standing target ?_, ?_, ?_⟩
    · rwa [List.map_reverse, List.mem_reverse] at mem
    · exact ⟨_, sent, leftCut.append_tail [BodyUnit.lineFeed], ascending.differ, ascending.all,
        by rw [items, List.reverse_reverse], fun chunk isSent refused =>
          (fellBack chunk isSent refused).1⟩
    · by_cases accepted : ∀ chunk ∈ sent, chunk.refused = false
      · rw [sentUnits_of_accepted accepted] at leftCut
        exact .inl (ascending.substitutes leftCut)
      · simp only [not_forall, Bool.not_eq_false] at accepted
        rcases accepted with ⟨chunk, isSent, refused⟩
        rcases fellBack chunk isSent refused with ⟨_, fellBack⟩
        exact .inr ⟨fellBack.more, fellBack.troubled⟩
  · rintro failure reached ⟨left, wellFormed, fails, renders⟩
    rw [flatten_chunks] at renders
    exact ⟨left, wellFormed, fails, renders.imp standing⟩

/-- A document goes through all phases, where images may be left as text when a call has failed, or
fails because a call has failed. -/
theorem meets_writePhases (document : SourceDocument) {compiled : Compiled}
    (isCompiled : compile (Markdown.classify coordinator.diagramLanguages built.markdown) = compiled)
    (wellFormed : (body ++ [BodyUnit.lineFeed] : Buffer).WellFormed)
    (holds : Holds contract documentId origin (body ++ [BodyUnit.lineFeed]) session) :
    Meets (coordinator.writePhases document documentId built) (session, outcome)
      (fun _ reached => reached.2.phase = .done ∧ reached.2.stats.directivesSkipped = 0 ∧
        ∃ left : Buffer, (left ++ [BodyUnit.lineFeed] : Buffer).WellFormed ∧
        Holds contract documentId origin (left ++ [BodyUnit.lineFeed]) reached.1 ∧
        Leaves built compiled body left ∧
        SubstitutesSent coordinator.chunkSize (targets built.links built.images)
          (body ++ (compiled.units ++ [BodyUnit.lineFeed])) (left ++ [BodyUnit.lineFeed]) ∧
        (Substitutes (targets built.links built.images)
            (body ++ (compiled.units ++ [BodyUnit.lineFeed])) (left ++ [BodyUnit.lineFeed]) ∨
          0 < reached.2.stats.imagesFallback ∧
            ∃ failure, contract.Troubled failure origin.remote reached.1.remote))
      (fun failure reached => ∃ left : Buffer, (left ++ [BodyUnit.lineFeed] : Buffer).WellFormed ∧
        Fails contract documentId origin (left ++ [BodyUnit.lineFeed]) failure reached.1 ∧
        Leaves built compiled body left) := by
  have outline := outline_compile coordinator.diagramLanguages built.markdown
  rw [isCompiled] at outline
  have ⟨inserted, filled⟩ := outline.appends.wellFormed wellFormed
  rw [← List.append_assoc] at inserted filled
  have whole (reached : Session σ) (failure : Failure)
      (fails : Fails contract documentId origin (body ++ (compiled.units ++ [BodyUnit.lineFeed])) failure
        reached) : ∃ left : Buffer, (left ++ [BodyUnit.lineFeed] : Buffer).WellFormed ∧
      Fails contract documentId origin (left ++ [BodyUnit.lineFeed]) failure reached ∧
      Leaves built compiled body left := by
    rw [← List.append_assoc] at fails
    exact ⟨_, filled, fails, .whole (.done _)⟩
  refine .bind (.ofStep (.bind (.report _ (.pure _ (.bind (.count _ ?_))))))
  rw [isCompiled]
  refine .bind ((meets_applyContent outline wellFormed document.path (holds.log _)).mono ?_
    fun _ _ fails => ⟨_, wellFormed, fails, .nothing⟩)
  rintro _ ⟨session, outcome⟩ ⟨holds, _, rfl⟩
  refine .bind ((meets_populateTables outline wellFormed holds).mono ?_ ?_)
  · rintro _ ⟨session, outcome⟩ ⟨holds, _⟩
    refine .bind ((meets_format outline wellFormed holds).mono ?_ fun _ _ => whole _ _)
    rintro _ ⟨session, outcome⟩ ⟨holds, _, noneSkipped⟩
    refine .bind ((meets_snapshot holds).mono ?_ fun _ _ => whole _ _)
    rintro snapshot ⟨session, reached⟩ ⟨holds, same, title, rfl⟩
    have noneSkipped : reached.stats.directivesSkipped = 0 := by
      rw [← noneSkipped, ← same]
    refine .bind (.reportDocument _ ?_)
    rw [← List.append_assoc] at holds ⊢
    refine .bind ((meets_replaceTokens differ areTokens filled (holds.log _)).mono ?_ ?_)
    · rintro _ ⟨session, outcome⟩ ⟨proceeds, left, wellFormed, holds, renders, sends, meant⟩
      rw [List.append_assoc] at renders
      exact .bind (.reach _ (.reach _ ⟨rfl, proceeds.skipped.trans noneSkipped, left, wellFormed,
        holds, .whole renders, sends, meant.imp_right fun fellBack =>
          ⟨Nat.zero_lt_of_lt fellBack.more, fellBack.troubled⟩⟩))
    · rintro failure reached ⟨left, wellFormed, fails, renders⟩
      rw [List.append_assoc] at renders
      exact ⟨left, wellFormed, fails, .whole renders⟩
  · intro failure reached fails
    rw [← List.append_assoc] at fails
    exact ⟨_, inserted, fails, .empty⟩

end Phases

end DocBinder.Sync.Coordinator
