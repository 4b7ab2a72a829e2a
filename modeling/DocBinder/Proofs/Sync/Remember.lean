import DocBinder.Proofs.Sync.Documents

/-!
# What a run remembers

The stored state after a run holds a record for each document that went through all phases. A path has
one record, that of the last document with this path.
-/

namespace DocBinder.Sync

open Docs

namespace State

/-- The digest of what was last written for a path, and the document it was written to. -/
def record? (state : State) (path : String) : Option (String × String) :=
  (state.records.lookup path).map fun record => (record.hash, record.documentId)

/-- The paths with records. -/
def paths (state : State) : List String :=
  state.records.map (·.1)

theorem hash?_eq (state : State) (path : String) :
    state.hash? path = (state.record? path).map (·.1) := by
  rw [hash?, record?, Option.map_map]
  rfl

theorem lookup_cons_ite {α : Type} (first other : String) (value : α)
    (rest : List (String × α)) :
    ((first, value) :: rest).lookup other =
      if other = first then some value else rest.lookup other := by
  rw [List.lookup_cons]
  by_cases same : other = first
  · rw [if_pos same, beq_iff_eq.mpr same]
  · rw [if_neg same, beq_eq_false_iff_ne.mpr same]

theorem lookup_putRecord (path other : String) (record : Record)
    (records : List (String × Record)) :
    (putRecord path record records).lookup other =
      if other = path then some record else records.lookup other := by
  induction records with
  | nil => exact lookup_cons_ite path other record []
  | cons entry rest step =>
      rcases entry with ⟨first, old⟩
      rw [putRecord]
      by_cases isFirst : first = path
      · subst isFirst
        simp only [beq_self_eq_true, if_true, lookup_cons_ite]
        split <;> rfl
      · simp only [beq_iff_eq, isFirst, if_false, lookup_cons_ite, step]
        by_cases same : other = first
        · subst same
          simp [isFirst]
        · simp [same]

theorem paths_putRecord (path : String) (record : Record) (records : List (String × Record)) :
    (putRecord path record records).map (·.1) =
      if path ∈ records.map (·.1) then records.map (·.1) else records.map (·.1) ++ [path] := by
  induction records with
  | nil => rfl
  | cons entry rest step =>
      rcases entry with ⟨first, old⟩
      rw [putRecord]
      by_cases isFirst : first = path
      · simp [isFirst]
      · simp only [beq_iff_eq, isFirst, if_false, List.map_cons, step, List.mem_cons,
          Ne.symm isFirst, false_or]
        split <;> rfl

/-! ## One document -/

theorem record?_recordSynced (state : State) (path hash documentId now other : String) :
    (state.recordSynced path hash documentId now).record? other =
      if other = path then some (hash, documentId) else state.record? other := by
  rw [record?, recordSynced, lookup_putRecord]
  split <;> rfl

theorem nodup_recordSynced {state : State} (once : state.paths.Nodup)
    (path hash documentId now : String) :
    (state.recordSynced path hash documentId now).paths.Nodup := by
  rw [paths, recordSynced, paths_putRecord]
  split
  · exact once
  · rename_i isNew
    apply List.Nodup.append once (List.nodup_singleton path)
    intro other isOld isPath
    rw [List.mem_singleton.mp isPath] at isOld
    exact isNew isOld

/-- Setting a title changes no other part of a record. -/
theorem record?_setTitle (state : State) (path title other : String) :
    (state.setTitle path title).record? other = state.record? other := by
  rw [record?, record?, setTitle]
  generalize state.records = records
  induction records with
  | nil => rfl
  | cons entry rest step =>
      rcases entry with ⟨first, old⟩
      rw [List.map_cons, lookup_cons_ite, lookup_cons_ite]
      by_cases same : other = first
      · rw [if_pos same, if_pos same]
        split <;> rfl
      · rw [if_neg same, if_neg same]
        exact step

theorem paths_setTitle (state : State) (path title : String) :
    (state.setTitle path title).paths = state.paths := by
  rw [paths, paths, setTitle, List.map_map]
  rfl

/-! ## What is kept -/

theorem record?_retain (state : State) (kept : List String) (other : String) :
    (state.retain kept).record? other = if other ∈ kept then state.record? other else none := by
  rw [record?, record?, retain]
  generalize state.records = records
  induction records with
  | nil => split <;> rfl
  | cons entry rest step =>
      rcases entry with ⟨first, old⟩
      rw [lookup_cons_ite]
      by_cases isKept : first ∈ kept
      · rw [List.filter_cons_of_pos (by simpa using isKept), lookup_cons_ite]
        by_cases same : other = first
        · subst same
          rw [if_pos rfl, if_pos isKept, if_pos rfl]
        · rw [if_neg same, if_neg same, step]
      · rw [List.filter_cons_of_neg (by simpa using isKept), step]
        by_cases same : other = first
        · subst same
          rw [if_neg isKept, if_neg isKept]
        · rw [if_neg same]

theorem nodup_retain {state : State} (once : state.paths.Nodup) (kept : List String) :
    (state.retain kept).paths.Nodup :=
  once.sublist (List.Sublist.map _ List.filter_sublist)

/-! ## All documents -/

/-- Remember that documents were written, one after another. -/
def recordAll (documents : List SourceDocument) (documentId now : String) (state : State) : State :=
  documents.foldl (fun state document =>
    state.recordSynced document.path document.hash documentId now) state

end State

/-- The last document with a path. -/
def latest? (path : String) (documents : List SourceDocument) : Option SourceDocument :=
  documents.reverse.find? (·.path == path)

theorem latest?_cons (path : String) (document : SourceDocument) (rest : List SourceDocument) :
    latest? path (document :: rest) =
      (latest? path rest).or (if path = document.path then some document else none) := by
  rw [latest?, latest?, List.reverse_cons, List.find?_append, List.find?_singleton]
  congr 1
  by_cases isPath : path = document.path
  · simp [isPath]
  · simp [isPath, Ne.symm isPath]

theorem latest?_isSome {path : String} {documents : List SourceDocument} :
    (latest? path documents).isSome ↔ path ∈ documents.map (·.path) := by
  simp [latest?, List.find?_isSome]

theorem State.record?_recordAll (documents : List SourceDocument) (documentId now path : String)
    (state : State) :
    (state.recordAll documents documentId now).record? path =
      ((latest? path documents).map fun document => (document.hash, documentId)).or
        (state.record? path) := by
  induction documents generalizing state with
  | nil => rfl
  | cons document rest step =>
      rw [recordAll, List.foldl_cons, ← recordAll, step, latest?_cons, record?_recordSynced]
      cases latest? path rest with
      | some last => rfl
      | none =>
          by_cases isPath : path = document.path
          · simp [isPath]
          · simp [isPath]

theorem State.nodup_recordAll {state : State} (once : state.paths.Nodup)
    (documents : List SourceDocument) (documentId now : String) :
    (state.recordAll documents documentId now).paths.Nodup := by
  induction documents generalizing state with
  | nil => exact once
  | cons document rest step => exact step (nodup_recordSynced once _ _ _ _)

theorem State.rootId_recordAll (documents : List SourceDocument) (documentId now : String)
    (state : State) : (state.recordAll documents documentId now).rootId = state.rootId := by
  induction documents generalizing state with
  | nil => rfl
  | cons document rest step => exact step _

/-! ## The documents that a run has finished -/

variable {σ : Type} {coordinator : Coordinator σ} {documentId : String}

/-- The documents that went through all phases. -/
def finished (documents : List SourceDocument) (outcomes : List Outcome) : List SourceDocument :=
  (documents.zip outcomes).filterMap fun pair => if pair.2.succeeded then some pair.1 else none

theorem finished_cons (document : SourceDocument) (outcome : Outcome)
    (rest : List SourceDocument) (outcomes : List Outcome) :
    finished (document :: rest) (outcome :: outcomes) =
      if outcome.succeeded then document :: finished rest outcomes else finished rest outcomes := by
  rw [finished, List.zip_cons_cons, List.filterMap_cons]
  split <;> simp_all [finished]

/-- A session remembers that some documents were written since another one, and nothing else. -/
structure Session.Recalls (before : Session σ) (documents : List SourceDocument)
    (documentId now : String) (after : Session σ) : Prop where
  state : after.state = before.state.map (·.recordAll documents documentId now)
  written : after.written = before.written ++ documents.map (·.path)

/-- A run remembers the documents that went through all phases, in their order. -/
theorem Passes.recalls {property : SourceDocument → Session σ → Outcome → Session σ → Prop}
    {documents : List SourceDocument} {session last : Session σ} {outcomes : List Outcome}
    (recorded : ∀ document before outcome after, property document before outcome after →
      Recorded coordinator documentId document before outcome after)
    (passes : Passes coordinator documentId property documents session outcomes last) :
    session.Recalls (finished documents outcomes) documentId coordinator.now last := by
  induction passes with
  | nil session => exact ⟨by simp [finished, State.recordAll], by simp [finished]⟩
  | cons records holds following step =>
      rename_i document rest session middle last outcome outcomes
      have recorded := recorded _ _ _ _ holds
      have sameState := recorded.state
      have sameWritten := recorded.written
      rw [Coordinator.remember] at sameState sameWritten
      rw [finished_cons]
      by_cases succeeded : outcome.succeeded
      · rw [if_pos succeeded] at sameState sameWritten ⊢
        refine ⟨?_, ?_⟩
        · rw [step.state, sameState, Option.map_map]
          rfl
        · rw [step.written, sameWritten]
          simp
      · rw [if_neg succeeded] at sameState sameWritten ⊢
        exact ⟨step.state.trans (by rw [sameState]), step.written.trans (by rw [sameWritten])⟩

theorem Session.Recalls.trans_eq {documents : List SourceDocument} {now : String}
    {before middle after : Session σ} (recalls : before.Recalls documents documentId now middle)
    (state : after.state = middle.state) (written : after.written = middle.written) :
    before.Recalls documents documentId now after :=
  ⟨state.trans recalls.state, written.trans recalls.written⟩

/-- A run passes through all documents or is given up at one of them, and remembers those that went
through all phases. -/
theorem Coordinator.meets_writeAll_recalls (coordinator : Coordinator σ)
    (documents : List SourceDocument) (documentId : String) (session : Session σ) :
    Meets (coordinator.writeAll documents documentId) session
      (fun _ reached => ∃ outcomes last,
        Passes coordinator documentId (Recorded coordinator documentId) documents session outcomes
          last ∧
        session.Recalls (finished documents outcomes) documentId coordinator.now reached)
      (fun failure reached => ∃ front document rest outcomes last,
        documents = front ++ document :: rest ∧
        Passes coordinator documentId (Recorded coordinator documentId) front session outcomes
          last ∧
        ((coordinator.recordDocument document documentId).run last).1 = .error failure ∧
        session.Recalls (finished front outcomes) documentId coordinator.now reached) := by
  have meets := @meets_writeFrom σ coordinator documentId (fun _ => True) _
    (fun before _ after => after.state = before.state ∧ after.written = before.written)
    (fun document before _ =>
      (coordinator.meets_recordDocument_recorded document documentId before).mono
        (fun _ _ recorded => ⟨trivial, recorded⟩)
        fun _ _ fails => ⟨fails.1.state, fails.1.written⟩)
    session trivial ⟨some documentId, []⟩ documents
  refine meets.mono ?_ ?_
  · rintro run reached ⟨outcomes, last, log, passes, _, rfl, _⟩
    have recalls := passes.recalls fun _ _ _ _ recorded => recorded
    exact ⟨outcomes, last, passes, recalls.trans_eq rfl rfl⟩
  · rintro failure reached ⟨front, document, rest, outcomes, last, split, passes, _, fails,
        state, written⟩
    have recalls := passes.recalls fun _ _ _ _ recorded => recorded
    exact ⟨front, document, rest, outcomes, last, split, passes, by rw [fails],
      recalls.trans_eq state written⟩

theorem Passes.forall_outcome
    {property : SourceDocument → Session σ → Outcome → Session σ → Prop} {holds : Outcome → Prop}
    (implies : ∀ document before outcome after, property document before outcome after →
      holds outcome)
    {documents : List SourceDocument} {session last : Session σ} {outcomes : List Outcome}
    (passes : Passes coordinator documentId property documents session outcomes last) :
    ∀ outcome ∈ outcomes, holds outcome := by
  induction passes with
  | nil session => simp
  | cons records isProperty following step =>
      exact List.forall_mem_cons.mpr ⟨implies _ _ _ _ isProperty, step⟩

theorem Passes.length_eq {property : SourceDocument → Session σ → Outcome → Session σ → Prop}
    {documents : List SourceDocument} {session last : Session σ} {outcomes : List Outcome}
    (passes : Passes coordinator documentId property documents session outcomes last) :
    outcomes.length = documents.length := by
  induction passes with
  | nil session => rfl
  | cons records holds following step => rw [List.length_cons, List.length_cons, step]

end DocBinder.Sync
