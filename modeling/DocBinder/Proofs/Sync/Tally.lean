import DocBinder.Proofs.Formatting.Lookups
import DocBinder.Proofs.Sync.Calls

/-!
# What outcomes count

Only a chunk of replacements inserts images, and no more is resolved, filled or replaced than there is.
Whatever faults are planned for the service, every step of the work on a document keeps the counts of
its outcome in agreement with the calls that were made: the requests that were accepted, the images
among them, and the replacements of the chunks that were sent.
-/

namespace DocBinder

open Docs

/-! ## Requests that count -/

/-- Whether a request inserts an image. -/
def Docs.Request.insertsImage : Request → Bool
  | .insertImage .. => true
  | _ => false

/-- Whether a request inserts text. -/
def Docs.Request.insertsText : Request → Bool
  | .insertText .. => true
  | _ => false

theorem exists_style_of_mem_cellStyles {shift : Nat} {inserts : List CellInsert} {request : Request}
    (mem : request ∈ cellStyles shift inserts) :
    ∃ start stop style, request = .styleText start stop style := by
  induction inserts generalizing shift with
  | nil => cases mem
  | cons insert rest step =>
      rcases List.mem_append.mp mem with mem | mem
      · rcases List.mem_map.mp mem with ⟨span, _, rfl⟩
        exact ⟨_, _, _, rfl⟩
      · exact step mem

theorem countP_insertsText_cellRequests (inserts : List CellInsert) :
    (cellRequests inserts).countP Request.insertsText = inserts.length := by
  have styled : (cellStyles 0 inserts.reverse).countP Request.insertsText = 0 := by
    rw [List.countP_eq_zero]
    intro request mem
    rcases exists_style_of_mem_cellStyles mem with ⟨start, stop, style, rfl⟩
    exact Bool.false_ne_true
  rw [cellRequests, List.countP_append, styled, List.countP_map, Nat.add_zero, List.countP_eq_length]
  exact fun _ _ => rfl

theorem countP_insertsImage_compileFrom (request offset : Nat) (blocks : List Block) :
    (compileFrom request offset blocks).requests.countP Request.insertsImage = 0 := by
  induction blocks generalizing request offset with
  | nil => rfl
  | cons block rest step =>
      rw [compileFrom]
      split
      · rename_i contribution contributes
        have plain : contribution.request.insertsImage = false := by
          cases block <;> cases contributes <;> rfl
        rw [List.countP_cons, step, plain]
        rfl
      · exact step _ _

theorem countP_insertsImage_cellRequests (inserts : List CellInsert) :
    (cellRequests inserts).countP Request.insertsImage = 0 := by
  rw [List.countP_eq_zero]
  intro request mem
  rcases List.mem_append.mp mem with mem | mem
  · rcases List.mem_map.mp mem with ⟨insert, _, rfl⟩
    exact Bool.false_ne_true
  · rcases exists_style_of_mem_cellStyles mem with ⟨start, stop, style, rfl⟩
    exact Bool.false_ne_true

theorem countP_insertsImage_formattingRequests (resolved : List Resolved) :
    (formattingRequests resolved).countP Request.insertsImage = 0 := by
  rw [List.countP_eq_zero]
  intro request mem
  rcases List.mem_flatMap.mp mem with ⟨item, _, mem⟩
  rw [Resolved.requests] at mem
  rcases List.mem_append.mp mem with mem | mem
  · split at mem
    · rw [List.mem_singleton.mp mem]
      exact Bool.false_ne_true
    · rcases List.mem_append.mp mem with mem | mem
      · rcases Option.map_eq_some_iff.mp (Option.mem_toList.mp mem) with ⟨range, _, rfl⟩
        exact Bool.false_ne_true
      · split at mem
        · rw [List.mem_singleton.mp mem]
          exact Bool.false_ne_true
        · cases mem
    · rw [List.mem_singleton.mp mem]
      exact Bool.false_ne_true
    · cases mem
  · rcases List.mem_map.mp mem with ⟨span, _, rfl⟩
    exact Bool.false_ne_true

/-- A link is replaced by text. -/
theorem Replacement.plain_of_link {link : Link} {start stop : Nat} {request : Request}
    (mem : request ∈ Replacement.requests ⟨.link link, start, stop⟩) :
    ¬ request.insertsImage = true := by
  simp only [Replacement.requests, Replacement.linkRequests, List.mem_cons] at mem
  rcases mem with rfl | rfl | mem
  · exact Bool.false_ne_true
  · exact Bool.false_ne_true
  · split at mem
    · cases mem
    · rw [List.mem_singleton.mp mem]
      exact Bool.false_ne_true

theorem Replacement.countP_requests (item : Replacement) :
    item.requests.countP Request.insertsImage = if item.isImage = true then 1 else 0 := by
  rcases item with ⟨target, start, stop⟩
  cases target with
  | image image => rfl
  | link link =>
      rw [List.countP_eq_zero.mpr fun _ mem => Replacement.plain_of_link mem]
      rfl

theorem countP_insertsImage_chunkRequests (chunk : List Replacement) :
    (chunkRequests chunk).countP Request.insertsImage = chunk.countP Replacement.isImage := by
  induction chunk with
  | nil => rfl
  | cons item rest step =>
      rw [chunkRequests, List.flatMap_cons, List.countP_append, ← chunkRequests, step,
        item.countP_requests, List.countP_cons, Nat.add_comm]

theorem countP_insertsImage_chunkFallback (chunk : List Replacement) :
    (chunkFallback chunk).countP Request.insertsImage = 0 := by
  rw [List.countP_eq_zero]
  intro request mem
  rcases List.mem_flatMap.mp mem with ⟨⟨target, start, stop⟩, _, mem⟩
  cases target with
  | image image =>
      simp only [Replacement.fallbackRequests, List.mem_cons, List.not_mem_nil, or_false] at mem
      rcases mem with rfl | rfl <;> exact Bool.false_ne_true
  | link link => exact Replacement.plain_of_link mem

theorem length_le_of_resolve {directives : List Directive} {snapshot : Snapshot} {start : Nat}
    {offsets : Option (List Nat)} {resolved : List Resolved}
    (resolves : (resolve directives snapshot start offsets none).resolved = .ok resolved) :
    resolved.length ≤ directives.length := by
  rw [resolved_resolve] at resolves
  rcases exists_lookups resolves with ⟨outcomes, _, given, rfl⟩
  have lengths := congrArg List.length given
  rw [List.length_map, List.length_mergeSort] at lengths
  rw [← lengths]
  exact List.length_filterMap_le _ _

theorem length_replacements_le (links : List Link) (images : List Image) (snapshot : Snapshot) :
    (planReplacements links images snapshot).replacements.length ≤ links.length + images.length := by
  have few (flat : FlatText) (items : List Target) :
      ((items.map (planTarget flat)).flatMap (·.replacements)).length ≤ items.length := by
    induction items with
    | nil => exact Nat.le_refl 0
    | cons target rest step =>
        have atMostOne : (planTarget flat target).replacements.length ≤ 1 := by
          rw [planTarget]
          split
          · exact Nat.le_refl 1
          · exact Nat.zero_le 1
        rw [List.map_cons, List.flatMap_cons, List.length_append, List.length_cons]
        omega
  rw [planReplacements, List.length_mergeSort]
  refine Nat.le_trans (few _ _) (Nat.le_of_eq ?_)
  rw [targets, List.length_append, List.length_map, List.length_map]

theorem ne_nil_of_mem_chunks {α : Type} {size : Nat} {items chunk : List α}
    (mem : chunk ∈ chunks size items) : chunk ≠ [] := by
  fun_induction chunks size items with
  | case1 => cases mem
  | case2 item rest step =>
      rcases List.mem_cons.mp mem with rfl | mem
      · exact List.cons_ne_nil _ _
      · exact step mem

theorem chunkRequests_ne_nil {chunk : List Replacement} (nonempty : chunk ≠ []) :
    chunkRequests chunk ≠ [] := by
  cases chunk with
  | nil => exact absurd rfl nonempty
  | cons item rest => exact List.cons_ne_nil _ _

theorem chunkFallback_ne_nil {chunk : List Replacement} (nonempty : chunk ≠ []) :
    chunkFallback chunk ≠ [] := by
  cases chunk with
  | nil => exact absurd rfl nonempty
  | cons item rest =>
      rcases item with ⟨_ | _, start, stop⟩ <;> exact List.cons_ne_nil _ _

namespace Sync

/-! ## The course of a document -/

section Course

variable (documentId : String)

/-- A chunk of replacements is sent once, or once more with its images as text if it has any. -/
inductive ChunkSent (chunk : List Replacement) : List Note → Prop
  | whole : ChunkSent chunk [taken documentId (chunkRequests chunk)]
  | fellBack (refusal : Failure) (pictured : chunk.any Replacement.isImage = true) :
      ChunkSent chunk [refused documentId (chunkRequests chunk) refusal,
        taken documentId (chunkFallback chunk)]

/-- A chunk is given up when it is refused, or when it is refused once more with its images as text,
if it has any. -/
inductive ChunkRefused (chunk : List Replacement) : List Note → Prop
  | once (refusal : Failure) : ChunkRefused chunk [refused documentId (chunkRequests chunk) refusal]
  | twice (refusal again : Failure) (pictured : chunk.any Replacement.isImage = true) :
      ChunkRefused chunk [refused documentId (chunkRequests chunk) refusal,
        refused documentId (chunkFallback chunk) again]

/-- Chunks are sent one after another. -/
inductive ChunksSent : List (List Replacement) → List Note → Prop
  | nil : ChunksSent [] []
  | cons {chunk : List Replacement} {rest : List (List Replacement)} {early late : List Note}
      (here : ChunkSent documentId chunk early) (following : ChunksSent rest late) :
      ChunksSent (chunk :: rest) (early ++ late)

/-- What has been planned for a document so far: its cell inserts, the directives that are resolved,
and the replacements of its tokens. -/
structure Plans where
  inserts : List CellInsert
  resolved : List Resolved
  replacements : List Replacement

variable (compiled : Compiled) (built : Placeholder.Built) (chunkSize : Nat)

/-- The calls that were made when a phase is the last one that was completed. Each phase looks at the
document before it sends its batch, and the last one sends its chunks. -/
inductive Course : Phase → List Note → Plans → Prop
  | begun : Course .idle [] ⟨[], [], []⟩
  | content {notes : List Note} {plans : Plans} (course : Course .idle notes plans) :
      Course .contentApplied (notes ++ (shown documentId :: sentOnce documentId compiled.requests)) plans
  | cells {notes : List Note} {plans : Plans} {view : Snapshot} {existing : Nat}
      {inserts : List CellInsert}
      (located : inserts = (locateCells compiled.tables view existing).inserts)
      (course : Course .contentApplied notes plans) :
      Course .tablesPopulated
        (notes ++ (shown documentId :: sentOnce documentId (cellRequests inserts)))
        { plans with inserts := inserts }
  | formatting {notes : List Note} {plans : Plans} {view : Snapshot} {start : Nat}
      {resolved : List Resolved}
      (resolves : (resolve compiled.directives view start (some compiled.offsets) none).resolved =
        .ok resolved)
      (course : Course .tablesPopulated notes plans) :
      Course .formatted
        (notes ++ (shown documentId :: sentOnce documentId (formattingRequests resolved)))
        { plans with resolved := resolved }
  | tokens {notes more : List Note} {plans : Plans} {view : Snapshot}
      {replacements : List Replacement}
      (planned : replacements = (planReplacements built.links built.images view).replacements)
      (chunksSent : ChunksSent documentId (chunks chunkSize replacements) more)
      (course : Course .formatted notes plans) :
      Course .linksResolved (notes ++ (shown documentId :: more))
        { plans with replacements := replacements }

/-- The calls of the phase after the last one that was completed: the document could not be fetched, or
a batch was refused, before which chunks may have been accepted. -/
inductive Interrupted : Phase → List Note → Prop
  | unseen {phase : Phase} (before : phase ∈ [.idle, .contentApplied, .tablesPopulated, .formatted])
      (failure : Failure) : Interrupted phase [unseen documentId failure]
  | content (refusal : Failure) :
      Interrupted .idle [shown documentId, refused documentId compiled.requests refusal]
  | cells {view : Snapshot} {existing : Nat} (refusal : Failure) :
      Interrupted .contentApplied [shown documentId, refused documentId
        (cellRequests (locateCells compiled.tables view existing).inserts) refusal]
  | formatting {view : Snapshot} {start : Nat} {resolved : List Resolved}
      (resolves : (resolve compiled.directives view start (some compiled.offsets) none).resolved =
        .ok resolved) (refusal : Failure) :
      Interrupted .tablesPopulated
        [shown documentId, refused documentId (formattingRequests resolved) refusal]
  | tokens {view : Snapshot} {front behind : List (List Replacement)} {chunk : List Replacement}
      {early late : List Note}
      (cut : chunks chunkSize (planReplacements built.links built.images view).replacements =
        front ++ chunk :: behind)
      (chunksSent : ChunksSent documentId front early)
      (refused : ChunkRefused documentId chunk late) :
      Interrupted .formatted (shown documentId :: (early ++ late))

end Course

/-! ## Counts -/

/-- What counts of an outcome are to come to. -/
structure Totals where
  cells : Nat
  resolved : Nat
  directives : Nat
  replaced : Nat
  unresolved : Nat

/-- The counts of an outcome after calls: the requests that were accepted, the images among them, and
what was done in the phases. -/
structure Tally (totals : Totals) (notes : List Note) (stats : Stats) : Prop where
  requests : stats.requests = (accepted notes).flatten.length
  images : stats.imagesInserted = (accepted notes).flatten.countP Request.insertsImage
  cells : stats.cellsPopulated = totals.cells
  resolved : stats.directivesResolved = totals.resolved
  directives : stats.directivesResolved + stats.directivesSkipped = totals.directives
  replaced : stats.linksResolved + stats.imagesInserted + stats.imagesFallback = totals.replaced
  unresolved : stats.placeholdersUnresolved = totals.unresolved

namespace Tally

variable {totals : Totals} {notes : List Note} {stats : Stats}

/-- Calls that send no accepted batch do not count. -/
theorem passes (tally : Tally totals notes stats) {more : List Note} (none : accepted more = []) :
    Tally totals (notes ++ more) stats := by
  have same : accepted (notes ++ more) = accepted notes := by
    rw [accepted_append, none, List.append_nil]
  exact { tally with
    requests := by rw [same, tally.requests]
    images := by rw [same, tally.images] }

/-- An accepted batch counts with its requests, and with its images when these are counted too. -/
theorem sends (tally : Tally totals notes stats) (documentId : String) {requests : List Request}
    {images : Nat} (pictures : requests.countP Request.insertsImage = images) :
    Tally { totals with replaced := totals.replaced + images }
      (notes ++ sentOnce documentId requests)
      { stats with
        requests := stats.requests + requests.length
        imagesInserted := stats.imagesInserted + images } := by
  have split : (accepted (notes ++ sentOnce documentId requests)).flatten =
      (accepted notes).flatten ++ requests := by
    rw [accepted_append, List.flatten_append, flatten_accepted_sentOnce]
  exact { tally with
    requests := by rw [split, List.length_append, tally.requests]
    images := by rw [split, List.countP_append, pictures, tally.images]
    replaced := by
      have := tally.replaced
      dsimp only
      omega }

end Tally

/-- The work on a document has made calls, and its outcome counts them. -/
structure Progress (start : Watch) (documentId : String) (totals : Totals) (notes : List Note)
    (state : Session Watch × Outcome) : Prop where
  makes : start.Makes documentId notes state.1.remote
  tally : Tally totals notes state.2.stats

namespace Progress

variable {start : Watch} {documentId : String} {totals : Totals} {notes : List Note}
  {session : Session Watch} {outcome : Outcome}
  (progress : Progress start documentId totals notes (session, outcome))

include progress

theorem log (log : List Log.Line) :
    Progress start documentId totals notes ({ session with log := log }, outcome) :=
  ⟨progress.makes, progress.tally⟩

/-- Tokens that are left are counted before any is replaced. -/
theorem leaves (left : Nat) :
    Progress start documentId { totals with unresolved := left } notes
      (session, { outcome with
        stats := { outcome.stats with placeholdersUnresolved := left } }) :=
  ⟨progress.makes, { progress.tally with unresolved := rfl }⟩

theorem passes {remote : Watch} {more : List Note}
    (makes : session.remote.Makes documentId more remote) (none : accepted more = []) :
    Progress start documentId totals (notes ++ more) ({ session with remote := remote }, outcome) :=
  ⟨progress.makes.trans makes, progress.tally.passes none⟩

end Progress

namespace Coordinator

variable {coordinator : Coordinator Watch} (serves : coordinator.remote = Watch.remote)
  {start : Watch} {documentId : String} {totals : Totals} {notes : List Note}
  {session : Session Watch} {outcome : Outcome}
  (progress : Progress start documentId totals notes (session, outcome))

include serves progress

theorem progress_snapshot :
    Meets (coordinator.snapshot documentId) (session, outcome)
      (fun _ reached => Progress start documentId totals (notes ++ [shown documentId]) reached ∧
        reached.2 = outcome)
      (fun failure reached =>
        Progress start documentId totals (notes ++ [unseen documentId failure]) reached ∧
        reached.2 = outcome) := by
  rw [snapshot, serves]
  refine .bind (.ofStep (.call ((session.remote.makes_fetch documentId).mono ?_ ?_)))
  · exact fun _ remote makes => .pure _ ⟨progress.passes makes rfl, rfl⟩
  · exact fun _ remote makes => ⟨progress.passes makes rfl, rfl⟩

/-- A batch is accepted and its requests are counted, or it is refused and nothing is. -/
theorem progress_submit (requests : List Request) {returns : Unit → Session Watch × Outcome → Prop}
    {fails : Failure → Session Watch × Outcome → Prop}
    (accepts : ∀ remote, start.Makes documentId (notes ++ sentOnce documentId requests) remote →
      returns () ({ session with remote := remote }, { outcome with
        stats := { outcome.stats with requests := outcome.stats.requests + requests.length } }))
    (refuses : ∀ failure remote,
      Progress start documentId totals (notes ++ [refused documentId requests failure])
        ({ session with remote := remote }, outcome) →
      fails failure ({ session with remote := remote }, outcome)) :
    Meets (coordinator.submit documentId requests) (session, outcome) returns fails := by
  cases requests with
  | nil =>
      refine .pure _ (accepts session.remote ?_)
      rw [show sentOnce documentId [] = [] from rfl, List.append_nil]
      exact progress.makes
  | cons request rest =>
      rw [submit, serves]
      refine .bind (.ofStep (.call
        ((session.remote.makes_update documentId (List.cons_ne_nil request rest)).mono ?_ ?_)))
      · exact fun _ remote makes => .count _ (accepts remote (progress.makes.trans makes))
      · exact fun failure remote makes => refuses failure remote (progress.passes makes rfl)

/-- A chunk is sent and all its replacements are counted, or it is given up. -/
theorem progress_submitChunk {chunk : List Replacement} (nonempty : chunk ≠ []) :
    Meets (coordinator.submitChunk documentId chunk) (session, outcome)
      (fun _ reached => ∃ more, ChunkSent documentId chunk more ∧
        Progress start documentId { totals with replaced := totals.replaced + chunk.length }
          (notes ++ more) reached ∧ reached.2.phase = outcome.phase)
      (fun _ reached => ∃ more, ChunkRefused documentId chunk more ∧
        Progress start documentId totals (notes ++ more) reached ∧
        reached.2.phase = outcome.phase) := by
  have few : chunk.countP Replacement.isImage ≤ chunk.length := List.countP_le_length
  have once {requests : List Request} (some : requests ≠ []) :
      sentOnce documentId requests = [taken documentId requests] :=
    if_neg (by simpa using some)
  refine .bind (.tryCatch (.bind (progress_submit serves progress (chunkRequests chunk) ?_ ?_)))
  · intro remote makes
    refine .count _ (.count _ ⟨_, .whole, ⟨?_, ?_⟩, rfl⟩)
    · rwa [← once (chunkRequests_ne_nil nonempty)]
    · rw [← once (chunkRequests_ne_nil nonempty)]
      have tally := progress.tally.sends documentId (countP_insertsImage_chunkRequests chunk)
      exact { tally with
        replaced := by
          have := tally.replaced
          dsimp only at this ⊢
          omega }
  · intro failure remote refusal
    split
    · exact .throw _ ⟨_, .once failure, refusal, rfl⟩
    · rename_i again
      have pictured : chunk.any Replacement.isImage = true := by
        by_contra plain
        have noImage : chunk.countP Replacement.isImage = 0 := by
          rw [List.countP_eq_zero]
          intro item mem isImage
          exact plain (List.any_eq_true.mpr ⟨item, mem, isImage⟩)
        simp [noImage] at again
      refine .bind (.reportDocument _ ?_)
      refine .bind (progress_submit serves (refusal.log _) (chunkFallback chunk) ?_ ?_)
      · intro remote makes
        refine .count _ (.count _ ⟨_, .fellBack failure pictured, ⟨?_, ?_⟩, rfl⟩)
        · rwa [once (chunkFallback_ne_nil nonempty), List.append_assoc] at makes
        · have tally := refusal.tally.sends documentId (countP_insertsImage_chunkFallback chunk)
          rw [once (chunkFallback_ne_nil nonempty), List.append_assoc] at tally
          exact { tally with
            replaced := by
              have := tally.replaced
              dsimp only at this ⊢
              omega }
      · intro other remote refusedAgain
        rw [List.append_assoc] at refusedAgain
        exact ⟨_, .twice failure other pictured, refusedAgain, rfl⟩

/-- Chunks are sent one after another, or given up at one of them. -/
theorem progress_submitChunks {list : List (List Replacement)} (nonempty : ∀ chunk ∈ list, chunk ≠ []) :
    Meets (coordinator.submitChunks documentId list) (session, outcome)
      (fun _ reached => ∃ more, ChunksSent documentId list more ∧
        Progress start documentId { totals with replaced := totals.replaced + list.flatten.length }
          (notes ++ more) reached ∧ reached.2.phase = outcome.phase)
      (fun _ reached => ∃ front chunk behind early late, list = front ++ chunk :: behind ∧
        ChunksSent documentId front early ∧ ChunkRefused documentId chunk late ∧
        (∃ totals, Progress start documentId totals (notes ++ (early ++ late)) reached) ∧
        reached.2.phase = outcome.phase) := by
  induction list generalizing totals notes session outcome with
  | nil => exact .pure _ ⟨[], .nil, by rwa [List.append_nil], rfl⟩
  | cons chunk rest step =>
      refine .bind ((progress_submitChunk serves progress (nonempty chunk List.mem_cons_self)).mono
        ?_ ?_)
      · rintro _ ⟨middle, reached⟩ ⟨early, here, progressed, samePhase⟩
        refine (step progressed fun other mem => nonempty other (List.mem_cons_of_mem _ mem)).mono
          ?_ ?_
        · rintro _ last ⟨late, following, progressed, stillPhase⟩
          refine ⟨early ++ late, .cons here following, ?_, stillPhase.trans samePhase⟩
          rw [List.append_assoc] at progressed
          rwa [List.flatten_cons, List.length_append, ← Nat.add_assoc]
        · rintro _ last
            ⟨front, given, behind, others, late, rfl, following, refused, ⟨totals, progressed⟩,
              stillPhase⟩
          refine ⟨chunk :: front, given, behind, early ++ others, late, rfl, .cons here following,
            refused, ⟨totals, ?_⟩, stillPhase.trans samePhase⟩
          rw [List.append_assoc] at progressed
          rwa [List.append_assoc]
      · rintro _ last ⟨late, refused, progressed, samePhase⟩
        exact ⟨[], chunk, rest, [], late, rfl, .nil, refused, ⟨totals, progressed⟩, samePhase⟩

end Coordinator

end Sync

end DocBinder
