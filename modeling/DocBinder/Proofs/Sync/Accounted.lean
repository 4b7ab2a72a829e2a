import DocBinder.Proofs.Formatting.Removal
import DocBinder.Proofs.Sync.Tally

/-!
# What outcomes tell

The work on a document goes through its phases one after another. Each looks at the document and
completes with one submission, the last one with a submission for each chunk of replacements. Whatever
faults are planned for the service, a document that failed did so after the phase that was completed
last, and the counts of one that went through all phases add up to what there was to do.
-/

namespace DocBinder.Sync

open Docs

/-! ## Phases -/

/-- The work on a document has ended after the phase that was completed last. -/
def Halts (start : Watch) (documentId : String) (compiled : Compiled) (built : Placeholder.Built)
    (chunkSize : Nat) (state : Session Watch × Outcome) : Prop :=
  ∃ totals notes rest plans,
    Course documentId compiled built chunkSize state.2.phase notes plans ∧
    Interrupted documentId compiled built chunkSize state.2.phase rest ∧
    Progress start documentId totals (notes ++ rest) state

section Phases

variable {start : Watch} {documentId : String} {totals : Totals} {notes rest : List Note}
  {state : Session Watch × Outcome} {compiled : Compiled} {built : Placeholder.Built}
  {chunkSize : Nat} {plans : Plans} {phase : Phase}

theorem Course.halts (course : Course documentId compiled built chunkSize phase notes plans)
    (isPhase : state.2.phase = phase)
    (interrupted : Interrupted documentId compiled built chunkSize phase rest)
    (progress : Progress start documentId totals (notes ++ rest) state) :
    Halts start documentId compiled built chunkSize state := by
  subst isPhase
  exact ⟨totals, notes, rest, plans, course, interrupted, progress⟩

/-- A batch that is refused right after the document was fetched. -/
theorem Course.halts_refused (course : Course documentId compiled built chunkSize phase notes plans)
    (isPhase : state.2.phase = phase) {requests : List Request} {refusal : Failure}
    (interrupted : Interrupted documentId compiled built chunkSize phase
      [shown documentId, refused documentId requests refusal])
    (progress : Progress start documentId totals
      (notes ++ [shown documentId] ++ [refused documentId requests refusal]) state) :
    Halts start documentId compiled built chunkSize state :=
  course.halts isPhase interrupted (by rwa [List.append_assoc] at progress)

namespace Coordinator

variable {coordinator : Coordinator Watch} (serves : coordinator.remote = Watch.remote)
  {session : Session Watch} {outcome : Outcome}
  (progress : Progress start documentId totals notes (session, outcome))

include serves progress

theorem course_applyContent (path : String) (isPhase : outcome.phase = .idle)
    (plain : compiled.requests.countP Request.insertsImage = 0)
    (course : Course documentId compiled built chunkSize .idle notes plans) :
    Meets (coordinator.applyContent documentId path compiled) (session, outcome)
      (fun _ reached => ∃ notes, Progress start documentId totals notes reached ∧
        reached.2.phase = .contentApplied ∧
        Course documentId compiled built chunkSize .contentApplied notes plans)
      (fun _ reached => Halts start documentId compiled built chunkSize reached) := by
  refine .bind ((progress_snapshot serves progress).mono ?_ ?_)
  · rintro view ⟨middle, _⟩ ⟨seen, rfl⟩
    refine .bind (.reportDocument _ (.bind (progress_submit serves (seen.log _) _ ?_ ?_)))
    · intro remote makes
      have tally := seen.tally.sends documentId plain
      rw [List.append_assoc] at makes tally
      exact .bind (.reach _ (.pure _ ⟨_, ⟨makes, tally⟩, rfl, .content course⟩))
    · exact fun failure remote refusal => course.halts_refused isPhase (.content failure) refusal
  · rintro failure reached ⟨unseen, same⟩
    exact course.halts (same ▸ isPhase) (.unseen (by decide) failure) unseen

theorem course_populateTables (existing : Nat) (isPhase : outcome.phase = .contentApplied)
    (course : Course documentId compiled built chunkSize .contentApplied notes plans) :
    Meets (coordinator.populateTables documentId compiled existing) (session, outcome)
      (fun _ reached => ∃ notes inserts,
        Progress start documentId { totals with cells := inserts.length } notes reached ∧
        reached.2.phase = .tablesPopulated ∧
        Course documentId compiled built chunkSize .tablesPopulated notes
          { plans with inserts := inserts })
      (fun _ reached => Halts start documentId compiled built chunkSize reached) := by
  refine .bind ((progress_snapshot serves progress).mono ?_ ?_)
  · rintro view ⟨middle, _⟩ ⟨seen, rfl⟩
    refine .bind (.reportDocument _ (.bind (.reportDocument _ ?_)))
    refine .bind (progress_submit serves ((seen.log _).log _) _ ?_ ?_)
    · intro remote makes
      have tally := seen.tally.sends documentId (countP_insertsImage_cellRequests
        (locateCells compiled.tables view existing).inserts)
      rw [List.append_assoc] at makes tally
      exact .bind (.count _ (.reach _ ⟨_, _, ⟨makes, { tally with cells := rfl }⟩, rfl,
        .cells rfl course⟩))
    · exact fun failure remote refusal => course.halts_refused isPhase (.cells failure) refusal
  · rintro failure reached ⟨unseen, same⟩
    exact course.halts (same ▸ isPhase) (.unseen (by decide) failure) unseen

theorem course_format (first : Nat) (isPhase : outcome.phase = .tablesPopulated)
    (spansFit : ∀ directive ∈ compiled.directives, ∀ span ∈ directive.spans,
      span.stop ≤ directive.literal.length)
    (course : Course documentId compiled built chunkSize .tablesPopulated notes plans) :
    Meets (coordinator.format documentId compiled first) (session, outcome)
      (fun _ reached => ∃ notes resolved,
        Progress start documentId { totals with
          resolved := resolved.length
          directives := compiled.directives.length } notes reached ∧
        reached.2.phase = .formatted ∧
        Course documentId compiled built chunkSize .formatted notes
          { plans with resolved := resolved })
      (fun _ reached => Halts start documentId compiled built chunkSize reached) := by
  refine .bind ((progress_snapshot serves progress).mono ?_ ?_)
  · rintro view ⟨middle, _⟩ ⟨seen, rfl⟩
    refine .bind (.reportDocument _ (.bind (.reportDocument _ ?_)))
    rcases exists_resolve_of_spansFit spansFit view first (some compiled.offsets) none with
      ⟨resolved, resolves⟩
    rw [resolves]
    refine .bind (progress_submit serves ((seen.log _).log _) _ ?_ ?_)
    · intro remote makes
      have tally := seen.tally.sends documentId (countP_insertsImage_formattingRequests resolved)
      rw [List.append_assoc] at makes tally
      exact .bind (.count _ (.reach _ ⟨_, resolved, ⟨makes, { tally with
        resolved := rfl
        directives := Nat.add_sub_cancel' (length_le_of_resolve resolves) }⟩, rfl,
        .formatting resolves course⟩))
    · exact fun failure remote refusal =>
        course.halts_refused isPhase (.formatting resolves failure) refusal
  · rintro failure reached ⟨unseen, same⟩
    exact course.halts (same ▸ isPhase) (.unseen (by decide) failure) unseen

omit progress in
/-- After a last look at the document its tokens are replaced, chunk by chunk. -/
theorem course_replaceTokens (view : Snapshot) (isPhase : outcome.phase = .formatted)
    (course : Course documentId compiled built coordinator.chunkSize .formatted notes plans)
    (seen : Progress start documentId totals (notes ++ [shown documentId]) (session, outcome)) :
    Meets (coordinator.replaceTokens documentId built view) (session, outcome)
      (fun _ reached => ∃ notes replacements,
        Progress start documentId { totals with
          replaced := totals.replaced + replacements.length
          unresolved := built.links.length + built.images.length - replacements.length } notes
          reached ∧
        replacements.length ≤ built.links.length + built.images.length ∧
        Course documentId compiled built coordinator.chunkSize .linksResolved notes
          { plans with replacements := replacements })
      (fun _ reached => Halts start documentId compiled built coordinator.chunkSize reached) := by
  refine .bind (.reportDocument _ (.bind (.count _ ?_)))
  generalize planned : (planReplacements built.links built.images view).replacements = replacements
  have few : replacements.length ≤ built.links.length + built.images.length := by
    rw [← planned]
    exact length_replacements_le _ _ _
  have counted := (seen.leaves (built.links.length + built.images.length -
    replacements.length)).log (session.log ++ (planReplacements built.links built.images view).log)
  refine (progress_submitChunks serves counted fun chunk mem => ne_nil_of_mem_chunks mem).mono ?_ ?_
  · rintro _ reached ⟨more, chunksSent, progressed, _⟩
    rw [flatten_chunks, List.append_assoc] at progressed
    exact ⟨_, replacements, progressed, few, .tokens planned.symm chunksSent course⟩
  · rintro _ reached
      ⟨front, chunk, behind, early, late, cut, chunksSent, refused, ⟨totals, progressed⟩, samePhase⟩
    rw [List.append_assoc] at progressed
    exact course.halts (samePhase.trans isPhase) (.tokens (by rwa [planned]) chunksSent refused)
      progressed

end Coordinator

end Phases

/-- The counts of an outcome add up to what there was to do: to the directives of the document, to the
cell inserts that were sent, and to the links and images that it has tokens for. -/
structure Balanced (compiled : Compiled) (built : Placeholder.Built) (plans : Plans) (stats : Stats) :
    Prop where
  directives : stats.directivesResolved + stats.directivesSkipped = compiled.directives.length
  resolved : stats.directivesResolved = plans.resolved.length
  cells : stats.cellsPopulated = (cellRequests plans.inserts).countP Request.insertsText
  tokens : stats.linksResolved + stats.imagesInserted + stats.imagesFallback +
    stats.placeholdersUnresolved = built.links.length + built.images.length

/-- The work on a document goes through all phases, or halts after one of them. -/
theorem Coordinator.course_writePhases {coordinator : Coordinator Watch}
    (serves : coordinator.remote = Watch.remote) (document : SourceDocument) (documentId : String)
    (session : Session Watch) (built : Placeholder.Built) :
    Meets (coordinator.writePhases document documentId built)
      (session, Outcome.start document.path document.title)
      (fun _ reached => ∃ totals notes plans,
        Progress session.remote documentId totals notes reached ∧ reached.2.phase = .done ∧
        Course documentId (coordinator.compiled built.markdown) built coordinator.chunkSize
          .linksResolved notes plans ∧
        Balanced (coordinator.compiled built.markdown) built plans reached.2.stats)
      (fun _ reached => Halts session.remote documentId (coordinator.compiled built.markdown) built
        coordinator.chunkSize reached) := by
  have begun (log : List Log.Line) (dropped : Nat) :
      Progress session.remote documentId ⟨0, 0, 0, 0, 0⟩ [] ({ session with log := log },
        { Outcome.start document.path document.title with
          stats := { Stats.zero with blocksDropped := dropped } }) :=
    ⟨.refl documentId session.remote, rfl, rfl, rfl, rfl, rfl, rfl, rfl⟩
  have outline := outline_compile coordinator.diagramLanguages built.markdown
  have plain : (coordinator.compiled built.markdown).requests.countP Request.insertsImage = 0 :=
    countP_insertsImage_compileFrom 0 0 _
  refine .bind (.ofStep (.bind (.report _ (.pure _ (.bind (.count _ ?_))))))
  refine .bind ((course_applyContent serves (begun _ _) document.path rfl plain .begun).mono ?_
    fun _ _ halts => halts)
  rintro ⟨first, existing⟩ ⟨session, outcome⟩ ⟨notes, progress, isPhase, course⟩
  refine .bind ((course_populateTables serves progress existing isPhase course).mono ?_
    fun _ _ halts => halts)
  rintro _ ⟨session, outcome⟩ ⟨notes, inserts, progress, isPhase, course⟩
  refine .bind ((course_format serves progress first isPhase outline.spansFit course).mono ?_
    fun _ _ halts => halts)
  rintro _ ⟨session, outcome⟩ ⟨notes, resolved, progress, isPhase, course⟩
  refine .bind ((progress_snapshot serves progress).mono ?_ ?_)
  · rintro view ⟨middle, _⟩ ⟨seen, rfl⟩
    refine .bind (.reportDocument _ ?_)
    refine .bind ((course_replaceTokens serves view isPhase course (seen.log _)).mono ?_
      fun _ _ halts => halts)
    rintro _ ⟨last, outcome⟩ ⟨notes, replacements, progress, few, course⟩
    refine .bind (.reach _ (.reach _ ⟨_, _, _, ⟨progress.makes, progress.tally⟩, rfl, course, ?_⟩))
    have tally := progress.tally
    have replaced := tally.replaced
    have unresolved := tally.unresolved
    exact ⟨tally.directives, tally.resolved,
      tally.cells.trans (countP_insertsText_cellRequests inserts).symm, by
        dsimp only at replaced unresolved ⊢
        omega⟩
  · rintro failure reached ⟨unseen, same⟩
    exact course.halts (same ▸ isPhase) (.unseen (by decide) failure) unseen

/-! ## The outcome of a document -/

section Accounts

variable {σ : Type} (coordinator : Coordinator σ) (document : SourceDocument) (documentId : String)
  (builder : Placeholder.BuilderState)

/-- The calls for a document whose work has ended after a phase: those that completed the phases up to
this one, and those of the next one. -/
def EndsAfter (phase : Phase) (notes : List Note) : Prop :=
  ∃ built early rest plans, coordinator.build document builder = .ok built ∧ notes = early ++ rest ∧
    Course documentId (coordinator.compiled built.markdown) built coordinator.chunkSize phase early
      plans ∧
    Interrupted documentId (coordinator.compiled built.markdown) built coordinator.chunkSize phase rest

/-- What an outcome tells of the calls for a document. A document without tokens fails before any call,
any other one after the phase that was completed last; one that is done went through all phases, and its
counts add up. -/
inductive Accounted (notes : List Note) (outcome : Outcome) : Prop
  | unbuilt {failure : Failure} (refuses : coordinator.build document builder = .error failure)
      (isFailed : outcome.phase = .failed) (after : outcome.failedPhase = some .idle)
      (nothing : notes = [])
  | failed {phase : Phase} (isFailed : outcome.phase = .failed)
      (after : outcome.failedPhase = some phase)
      (ends : EndsAfter coordinator document documentId builder phase notes)
  | done {built : Placeholder.Built} {plans : Plans}
      (builds : coordinator.build document builder = .ok built) (isDone : outcome.phase = .done)
      (course : Course documentId (coordinator.compiled built.markdown) built coordinator.chunkSize
        .linksResolved notes plans)
      (balanced : Balanced (coordinator.compiled built.markdown) built plans outcome.stats)

end Accounts

/-- Whatever the service holds and whatever faults are planned for it, the outcome of a document counts
the requests that were accepted for it and the images among them, its body is what the accepted batches
make of it, and no other body has changed. A document that failed did so after the phase that was
completed last, and the counts of one that is done add up. Also where the run is given up, the phases
were gone through in order, and a chunk of replacements was sent a second time only with its images as
text. -/
theorem Coordinator.accounted_writeDocument (languages : List Text) (setup : Placeholder.Setup)
    (chunkSize : Nat) (now : String) (document : SourceDocument) (documentId : String)
    (session : Session Watch) :
    let coordinator : Coordinator Watch := ⟨Watch.remote, languages, setup, chunkSize, now⟩
    Meets (coordinator.writeDocument document documentId) session
      (fun outcome reached => ∃ notes, session.remote.Makes documentId notes reached.remote ∧
        outcome.stats.requests = (accepted notes).flatten.length ∧
        outcome.stats.imagesInserted = (accepted notes).flatten.countP Request.insertsImage ∧
        Accounted coordinator document documentId session.builder notes outcome)
      (fun _ reached => ∃ notes, session.remote.Makes documentId notes reached.remote ∧
        (notes = [] ∨
          ∃ phase, EndsAfter coordinator document documentId session.builder phase notes)) := by
  intro coordinator
  have serves : coordinator.remote = Watch.remote := rfl
  refine .bind (.attempt (meets_buildTokens ?_ ?_))
  · intro built builds
    refine .bind (.work ((course_writePhases serves document documentId _ built).mono ?_ ?_))
    · rintro _ ⟨last, outcome⟩ ⟨totals, notes, plans, progress, isDone, course, balanced⟩
      exact .pure _ ⟨notes, progress.makes, progress.tally.requests, progress.tally.images,
        .done builds isDone course balanced⟩
    · rintro failure ⟨last, outcome⟩ ⟨totals, early, rest, plans, course, interrupted, progress⟩
      have ends : EndsAfter coordinator document documentId session.builder outcome.phase
          (early ++ rest) := ⟨built, early, rest, plans, builds, rfl, course, interrupted⟩
      dsimp only
      split
      · exact .bind (.report _ (.pure _ ⟨_, progress.makes, progress.tally.requests,
          progress.tally.images, .failed rfl rfl ends⟩))
      · exact .throw _ ⟨_, progress.makes, .inr ⟨_, ends⟩⟩
  · intro failure refuses
    have nothing := Watch.Makes.refl documentId session.remote
    dsimp only
    split
    · exact .throw _ ⟨[], nothing, .inl rfl⟩
    · exact .bind (.report _ (.pure _ ⟨[], nothing, rfl, rfl, .unbuilt refuses rfl rfl rfl⟩))

end DocBinder.Sync
