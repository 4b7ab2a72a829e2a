import DocBinder.Proofs.Sync.Contributions
import DocBinder.Proofs.Sync.Fresh
import DocBinder.Proofs.Sync.Remember

/-!
# Failures are isolated

Faults that are planned for the calls of one document of a run leave the others alone: each of them
goes through all phases and contributes what it contributes in a run without faults.
-/

namespace DocBinder.Sync

open Docs

/-! ## Documents at which no call fails -/

/-- What tokens of later documents are counted from. -/
def Coordinator.builderBehind {σ : Type} (coordinator : Coordinator σ)
    (documents : List SourceDocument) (builder : Placeholder.BuilderState) :
    Placeholder.BuilderState :=
  documents.foldl (fun builder document => coordinator.builderAfter document builder) builder

theorem Coordinator.builderBehind_cons {σ : Type} (coordinator : Coordinator σ)
    (document : SourceDocument) (rest : List SourceDocument)
    (builder : Placeholder.BuilderState) :
    coordinator.builderBehind (document :: rest) builder =
      coordinator.builderBehind rest (coordinator.builderAfter document builder) :=
  rfl

section Contract

variable {σ : Type} {coordinator : Coordinator σ} {contract : coordinator.remote.Contract}
  {documentId : String} {origin session last : Session σ} {documents : List SourceDocument}
  {outcomes : List Outcome}

theorem Passes.leads
    (passes : Passes coordinator documentId (Written contract documentId origin) documents session
      outcomes last) : contract.Leads session.remote last.remote := by
  induction passes with
  | nil session => exact contract.refl _
  | cons records written following step => exact contract.trans written.leads step

theorem Passes.paths
    (passes : Passes coordinator documentId (Written contract documentId origin) documents session
      outcomes last) : outcomes.map (·.path) = documents.map (·.path) := by
  induction passes with
  | nil session => rfl
  | cons records written following step =>
      rw [List.map_cons, List.map_cons, step, written.path]

theorem Passes.builder
    (passes : Passes coordinator documentId (Written contract documentId origin) documents session
      outcomes last) : last.builder = coordinator.builderBehind documents session.builder := by
  induction passes with
  | nil session => rfl
  | cons records written following step => rw [step, written.builds, Coordinator.builderBehind_cons]

/-- Where no call fails, every document is written exactly. -/
theorem Passes.exactly
    (passes : Passes coordinator documentId (Written contract documentId origin) documents session
      outcomes last)
    (noneFails : ∀ failure, ¬ contract.Troubled failure session.remote last.remote) :
    Passes coordinator documentId (fun document before outcome after =>
      coordinator.Exactly contract.body? documentId document before outcome after ∧
        outcome.phase = .done) documents session outcomes last := by
  induction passes with
  | nil session => exact .nil session
  | cons records written following step =>
      refine .cons records ?_ (step fun failure troubled =>
        noneFails failure (contract.before written.leads troubled))
      rcases written.ends with ⟨isDone, buffer, shown, there, bodies, writes⟩ | spoiled
      · refine ⟨⟨written.builds, buffer, shown, there, ?_, writes⟩, isDone⟩
        rw [bodies, Function.update_self]
      · rcases spoiled.troubled with ⟨failure, troubled⟩
        exact absurd (contract.after troubled following.leads) (noneFails failure)

end Contract

/-! ## Contributions to a run's buffer -/

/-- The units that documents contribute one after another when they go through all phases. -/
inductive Coordinator.Contributions {σ : Type} (coordinator : Coordinator σ) (opening : Buffer) :
    Placeholder.BuilderState → List SourceDocument → List Buffer → Prop where
  | nil (builder : Placeholder.BuilderState) : Contributions coordinator opening builder [] []
  | cons {builder : Placeholder.BuilderState} {document : SourceDocument}
      {rest : List SourceDocument} {own : Buffer} {owns : List Buffer}
      (contributes : coordinator.Contributes opening builder document own)
      (following : Contributions coordinator opening (coordinator.builderAfter document builder) rest
        owns) :
      Contributions coordinator opening builder (document :: rest) (own :: owns)

theorem Coordinator.Contributions.unique {σ : Type} {coordinator : Coordinator σ} {opening : Buffer}
    {builder : Placeholder.BuilderState} {documents : List SourceDocument}
    {owns others : List Buffer}
    (contributions : coordinator.Contributions opening builder documents owns)
    (also : coordinator.Contributions opening builder documents others) : owns = others := by
  induction contributions generalizing others with
  | nil builder =>
      cases also
      rfl
  | cons contributes following step =>
      cases also with
      | cons otherContributes otherFollowing =>
          rw [contributes.unique otherContributes, step otherFollowing]

theorem Coordinator.Contributions.length_eq {σ : Type} {coordinator : Coordinator σ}
    {opening : Buffer} {builder : Placeholder.BuilderState} {documents : List SourceDocument}
    {owns : List Buffer} (contributions : coordinator.Contributions opening builder documents owns) :
    owns.length = documents.length := by
  induction contributions with
  | nil builder => rfl
  | cons contributes following step => rw [List.length_cons, List.length_cons, step]

/-- Each document of a run puts units of its own before the final line feed, and leaves what the
documents before it have put there. In what the buffer began with, it replaces none but its own
tokens. -/
inductive Adds (coordinator : Coordinator Service) (documentId : String) :
    List SourceDocument → Session Service → (shown tail : Buffer) → List Outcome → List Buffer →
      Session Service → Prop where
  | nil (session : Session Service) (shown tail : Buffer) :
      Adds coordinator documentId [] session shown tail [] [] session
  | cons {document : SourceDocument} {rest : List SourceDocument}
      {session middle last : Session Service} {shown tail reached own : Buffer} {outcome : Outcome}
      {outcomes : List Outcome} {owns : List Buffer}
      (there : session.remote.body? documentId = some (shown ++ tail ++ [BodyUnit.lineFeed]))
      (records : (coordinator.recordDocument document documentId).run session =
        (.ok outcome, middle))
      (edits : Renders (coordinator.Owns session.builder document) shown reached)
      (adds : middle.remote.body? documentId = some (reached ++ (tail ++ own) ++ [BodyUnit.lineFeed]))
      (following : Adds coordinator documentId rest middle reached (tail ++ own) outcomes owns
        last) :
      Adds coordinator documentId (document :: rest) session shown tail (outcome :: outcomes)
        (own :: owns) last

/-- A run is about to write documents to a buffer in which their tokens can be told. -/
structure Ready (coordinator : Coordinator Service) (documentId : String)
    (issued : Target → Prop) (opening : Buffer) (documents : List SourceDocument)
    (session : Session Service) (shown tail : Buffer) : Prop where
  there : session.remote.body? documentId = some (shown ++ tail ++ [BodyUnit.lineFeed])
  unmixed : coordinator.Unmixed issued opening session.builder documents
  stands : coordinator.Stands issued opening session.builder documents shown tail
  areIssued : ∀ target, coordinator.Issues session.builder documents target → issued target

section Ready

variable {coordinator : Coordinator Service} {documentId : String} {issued : Target → Prop}
  {opening shown tail : Buffer} {document : SourceDocument} {documents rest : List SourceDocument}
  {session middle last : Session Service} {outcome : Outcome} {outcomes : List Outcome}

theorem Ready.first
    (there : session.remote.body? documentId = some (opening ++ [BodyUnit.lineFeed]))
    (unmixed : coordinator.Unmixed (coordinator.Issues session.builder documents) opening
      session.builder documents) :
    Ready coordinator documentId (coordinator.Issues session.builder documents) opening documents
      session opening [] :=
  ⟨by rw [List.append_nil, there], unmixed, .first, fun _ issues => issues⟩

/-- Behind a document that left units of its own, the run is ready for the others. -/
theorem Ready.next {reached own : Buffer}
    (ready : Ready coordinator documentId issued opening (document :: rest) session shown tail)
    (builds : middle.builder = coordinator.builderAfter document session.builder)
    (body : middle.remote.body? documentId = some (reached ++ (tail ++ own) ++ [BodyUnit.lineFeed]))
    (renders : Renders (coordinator.Owns session.builder document) shown reached)
    (becomes : coordinator.Becomes session.builder document own) :
    Ready coordinator documentId issued opening rest middle reached (tail ++ own) := by
  rcases ready.unmixed with _ | ⟨tells, following⟩
  refine ⟨body, ?_, ?_, ?_⟩
  · rwa [builds]
  · rw [builds]
    exact ready.stands.next tells ready.areIssued renders becomes
  · rw [builds]
    exact fun target issues => ready.areIssued target (.later issues)

/-- A document that is written to its end adds what it contributes. -/
theorem Ready.exactly
    (ready : Ready coordinator documentId issued opening (document :: rest) session shown tail)
    (exactly : coordinator.Exactly Service.body? documentId document session outcome middle) :
    ∃ reached own,
      middle.remote.body? documentId = some (reached ++ (tail ++ own) ++ [BodyUnit.lineFeed]) ∧
      Renders (coordinator.Owns session.builder document) shown reached ∧
      coordinator.Contributes opening session.builder document own ∧
      Ready coordinator documentId issued opening rest middle reached (tail ++ own) := by
  rcases ready.unmixed with _ | ⟨tells, _⟩
  rcases exactly.writes with ⟨buffer, after, there, body, writes⟩
  rw [ready.there, Option.some.injEq] at there
  subst there
  rcases ready.stands.exists_contribution tells ready.areIssued writes with
    ⟨reached, own, rfl, renders, becomes, contributes⟩
  exact ⟨reached, own, body, renders, contributes, ready.next exactly.builds body renders becomes⟩

/-- Wherever a document ends, the run is ready for the others. -/
theorem Ready.leaves {front left : Buffer}
    (ready : Ready coordinator documentId issued opening (document :: rest) session shown tail)
    (builds : middle.builder = coordinator.builderAfter document session.builder)
    (there : session.remote.body? documentId = some (front ++ [BodyUnit.lineFeed]))
    (body : middle.remote.body? documentId = some (left ++ [BodyUnit.lineFeed]))
    (leaves : coordinator.LeavesOf session.builder document front left) :
    ∃ reached own,
      middle.remote.body? documentId = some (reached ++ (tail ++ own) ++ [BodyUnit.lineFeed]) ∧
      Renders (coordinator.Owns session.builder document) shown reached ∧
      Ready coordinator documentId issued opening rest middle reached (tail ++ own) := by
  rcases ready.unmixed with _ | ⟨tells, _⟩
  rw [ready.there, Option.some.injEq] at there
  rcases List.append_inj' there rfl with ⟨rfl, _⟩
  rcases ready.stands.exists_own tells ready.areIssued leaves with
    ⟨reached, own, rfl, renders, becomes⟩
  exact ⟨reached, own, body, renders, ready.next builds body renders becomes⟩

/-- Documents that are written to their ends add what they contribute, and whatever is added behind
them is added by the whole run. -/
theorem Ready.exists_contributions
    (ready : Ready coordinator documentId issued opening (documents ++ rest) session shown tail)
    (passes : Passes coordinator documentId (fun document before outcome after =>
      coordinator.Exactly Service.body? documentId document before outcome after ∧
        outcome.phase = .done) documents session outcomes middle) :
    ∃ owns reached left,
      coordinator.Contributions opening session.builder documents owns ∧
      Ready coordinator documentId issued opening rest middle reached left ∧
      ∀ others following last,
        Adds coordinator documentId rest middle reached left others following last →
        Adds coordinator documentId (documents ++ rest) session shown tail (outcomes ++ others)
          (owns ++ following) last := by
  induction passes generalizing shown tail with
  | nil session =>
      exact ⟨[], shown, tail, .nil _, ready, fun _ _ _ adds => adds⟩
  | cons records holds following step =>
      rcases ready.exactly holds.1 with ⟨reached, own, body, renders, contributes, next⟩
      rcases step next with ⟨owns, further, left, contributions, last, adds⟩
      refine ⟨own :: owns, further, left, .cons contributes ?_, last, ?_⟩
      · rwa [← holds.1.builds]
      · intro others more final behind
        exact .cons ready.there records renders body (adds others more final behind)

end Ready

/-! ## Faults at one document -/

/-- How often the operations of the service were called when documents were written. -/
def Coordinator.countsAfter (coordinator : Coordinator Service) (documentId : String)
    (documents : List SourceDocument) (session : Session Service) : CallCounts :=
  ((coordinator.writeAll documents documentId).run session).2.remote.counts

/-- Only fetches and batches fail that are called while one document is written, and they fail with
failures of the service other than invalid credentials. -/
structure Confined (coordinator : Coordinator Service) (documentId : String)
    (front : List SourceDocument) (document : SourceDocument) (session : Session Service) :
    Prop where
  numbered : Service.Numbered session.remote.faults
  fetch : ∀ number failure, session.remote.faults.fetch.lookup number = some failure →
    (coordinator.countsAfter documentId front session).fetch ≤ number ∧
      number < (coordinator.countsAfter documentId (front ++ [document]) session).fetch
  update : ∀ number failure, session.remote.faults.update.lookup number = some failure →
    (coordinator.countsAfter documentId front session).update ≤ number ∧
      number < (coordinator.countsAfter documentId (front ++ [document]) session).update
  tame : ∀ number failure, session.remote.faults.fetch.lookup number = some failure ∨
    session.remote.faults.update.lookup number = some failure →
    failure.cause.isDocs = true ∧ failure.cause.isInvalidCredentials = false

/-- A run goes through its documents, each of which adds units of its own, and remembers those that
went through all phases. -/
structure Delivers (coordinator : Coordinator Service) (documentId : String) (opening : Buffer)
    (documents : List SourceDocument) (session : Session Service) (outcomes : List Outcome)
    (owns : List Buffer) : Prop where
  paths : outcomes.map (·.path) = documents.map (·.path)
  ends : ∃ last log,
    (coordinator.writeAll documents documentId).run session =
      (.ok ⟨some documentId, outcomes⟩, { last with log := log }) ∧
    Adds coordinator documentId documents session opening [] outcomes owns last ∧
    session.Recalls (finished documents outcomes) documentId coordinator.now last

section Confined

variable {coordinator : Coordinator Service} {documentId : String} {opening : Buffer}
  {document : SourceDocument} {front rest : List SourceDocument}
  {session before middle after last : Session Service} {outcomes : List Outcome}

theorem Confined.of_quiet (quiet : session.remote.faults = .none) :
    Confined coordinator documentId front document session := by
  refine ⟨?_, ?_, ?_, ?_⟩
  · rw [quiet]
    exact ⟨rfl, rfl, rfl, rfl⟩
  · intro number failure planned
    rw [quiet] at planned
    cases planned
  · intro number failure planned
    rw [quiet] at planned
    cases planned
  · intro number failure planned
    rw [quiet] at planned
    rcases planned with planned | planned <;> cases planned

variable (confined : Confined coordinator documentId front document session)

include confined

/-- A call that fails is one that was made while the document was written. -/
theorem Confined.window {failure : Failure} (advances : Service.Advances session.remote before.remote)
    (planned : Service.Planned failure before.remote last.remote) :
    (failure.cause.isDocs && !failure.cause.isInvalidCredentials) = true ∧
      last.remote.counts ≠ coordinator.countsAfter documentId front session ∧
      before.remote.counts ≠ coordinator.countsAfter documentId (front ++ [document]) session := by
  rcases planned with ⟨notBefore, below, planned⟩ | ⟨notBefore, below, planned⟩ | unnumbered
  · rw [advances.faults] at planned
    rcases confined.tame _ _ (.inl planned) with ⟨isDocs, isOther⟩
    have inside := confined.fetch _ _ planned
    refine ⟨by rw [isDocs, isOther]; rfl, fun same => ?_, fun same => ?_⟩ <;>
    · rw [← same] at inside
      omega
  · rw [advances.faults] at planned
    rcases confined.tame _ _ (.inr planned) with ⟨isDocs, isOther⟩
    have inside := confined.update _ _ planned
    refine ⟨by rw [isDocs, isOther]; rfl, fun same => ?_, fun same => ?_⟩ <;>
    · rw [← same] at inside
      omega
  · exact absurd (advances.faults ▸ confined.numbered) unnumbered

/-- Where faults are confined to one document of a run, every other document goes through all phases and
contributes its units. -/
theorem Confined.exists_delivers (serves : coordinator.remote = Service.remote)
    (alone : coordinator.setup.uploader = none)
    (reachable : Service.contract.Reachable session.remote)
    (there : session.remote.body? documentId = some (opening ++ [BodyUnit.lineFeed]))
    (unmixed : coordinator.Unmixed
      (coordinator.Issues session.builder (front ++ document :: rest)) opening session.builder
      (front ++ document :: rest)) :
    ∃ outcomes kept own later,
      Delivers coordinator documentId opening (front ++ document :: rest) session outcomes
        (kept ++ own :: later) ∧
      coordinator.Contributions opening session.builder front kept ∧
      coordinator.Contributions opening
        (coordinator.builderBehind (front ++ [document]) session.builder) rest later ∧
      ∀ outcome ∈ outcomes.eraseIdx front.length, outcome.phase = .done := by
  rcases coordinator with ⟨remote, languages, setup, chunkSize, now⟩
  change remote = Service.remote at serves
  subst serves
  have meets := @Coordinator.meets_writeAll Service ⟨Service.remote, languages, setup, chunkSize, now⟩
    Service.counted documentId session alone reachable.sound
    (Option.isSome_iff_exists.mpr ⟨_, there⟩) (front ++ document :: rest)
  have runs := meets.run
  rw [Meets] at runs
  split at runs
  · rcases runs with ⟨runs, outcomes, last, log, passes, _, _, rfl, rfl⟩
    have recalls := passes.recalls fun _ _ _ _ written => written.toRecorded
    have paths := passes.paths
    rcases passes.exists_split with ⟨early, others, middle, rfl, frontPasses, further⟩
    cases further with
    | cons records written following =>
        rename_i after outcome late runs
        have whole := frontPasses.append (.cons records written (.nil after))
        rcases frontPasses.exists_run with ⟨_, frontRuns⟩
        rcases whole.exists_run with ⟨_, wholeRuns⟩
        -- Before the document and behind it, no number of a call is one that a fault is planned for.
        have frontExactly := frontPasses.exactly fun failure planned =>
          (confined.window (.refl _) planned).2.1 (by rw [Coordinator.countsAfter, frontRuns])
        have restExactly := following.exactly fun failure planned =>
          (confined.window whole.leads planned).2.2 (by rw [Coordinator.countsAfter, wholeRuns])
        rcases (Ready.first there unmixed).exists_contributions frontExactly with
          ⟨kept, shown, tail, keptContributions, ready, addsBehind⟩
        rcases written.leaves with ⟨body, left, bodyThere, leftThere, leaves⟩
        rcases ready.leaves written.builds bodyThere leftThere leaves with
          ⟨reached, own, ownThere, renders, next⟩
        rw [← List.append_nil rest] at next
        rcases next.exists_contributions restExactly with
          ⟨later, _, _, laterContributions, _, addsRest⟩
        have restAdds := addsRest [] [] last (.nil ..)
        rw [List.append_nil, List.append_nil, List.append_nil] at restAdds
        have adds := addsBehind _ _ last (.cons ready.there records renders ownThere restAdds)
        refine ⟨_, kept, own, later, ⟨paths, last, log, runs, adds, recalls⟩, keptContributions, ?_,
          ?_⟩
        · rw [← whole.builder]
          exact laterContributions
        · rw [← frontPasses.length_eq, List.eraseIdx_append_of_length_le (Nat.le_refl _),
            Nat.sub_self, List.eraseIdx_cons_zero]
          intro outcome mem
          rcases List.mem_append.mp mem with isEarly | isLate
          · exact frontExactly.forall_outcome (fun _ _ _ _ holds => holds.2) outcome isEarly
          · exact restExactly.forall_outcome (fun _ _ _ _ holds => holds.2) outcome isLate
  · rcases runs with ⟨_, _, _, _, _, middle, _, _, kept, _, _, _, givenUp⟩
    have aborts := givenUp.aborts
    rw [(confined.window kept.leads givenUp.troubled).1] at aborts
    cases aborts

end Confined

/-- Two runs write the same documents to the same buffer with equal builders: one without faults, and
one in which any of the calls fail that are made for one of the documents. Where no token comes
together from parts of other texts, every other document goes through all phases in both runs and
contributes the same units, and both runs remember the documents that went through all phases. -/
theorem Confined.isolates {coordinator : Coordinator Service} {documentId : String}
    {opening : Buffer} {document : SourceDocument} {front rest : List SourceDocument}
    {quiet faulty : Session Service} (serves : coordinator.remote = Service.remote)
    (alone : coordinator.setup.uploader = none)
    (reachable : Service.contract.Reachable quiet.remote)
    (otherReachable : Service.contract.Reachable faulty.remote)
    (there : quiet.remote.body? documentId = some (opening ++ [BodyUnit.lineFeed]))
    (otherThere : faulty.remote.body? documentId = some (opening ++ [BodyUnit.lineFeed]))
    (builder : faulty.builder = quiet.builder) (noFaults : quiet.remote.faults = .none)
    (confined : Confined coordinator documentId front document faulty)
    (unmixed : coordinator.Unmixed
      (coordinator.Issues quiet.builder (front ++ document :: rest)) opening quiet.builder
      (front ++ document :: rest)) :
    ∃ outcomes otherOutcomes kept own otherOwn later,
      Delivers coordinator documentId opening (front ++ document :: rest) quiet outcomes
        (kept ++ own :: later) ∧
      Delivers coordinator documentId opening (front ++ document :: rest) faulty otherOutcomes
        (kept ++ otherOwn :: later) ∧
      kept.length = front.length ∧ (∀ outcome ∈ outcomes, outcome.phase = .done) ∧
      ∀ outcome ∈ otherOutcomes.eraseIdx front.length, outcome.phase = .done := by
  have isConfined : Confined coordinator documentId front document quiet := .of_quiet noFaults
  rcases isConfined.exists_delivers serves alone reachable there unmixed with
    ⟨outcomes, kept, own, later, delivers, keptContributions, laterContributions, _⟩
  rw [← builder] at unmixed
  rcases confined.exists_delivers serves alone otherReachable otherThere unmixed with
    ⟨otherOutcomes, otherKept, otherOwn, otherLater, otherDelivers, otherKeptContributions,
      otherLaterContributions, othersDone⟩
  rw [builder] at otherKeptContributions otherLaterContributions
  have sameKept := keptContributions.unique otherKeptContributions
  have sameLater := laterContributions.unique otherLaterContributions
  subst sameKept
  subst sameLater
  refine ⟨outcomes, otherOutcomes, kept, own, otherOwn, later, delivers, otherDelivers,
    keptContributions.length_eq, ?_, othersDone⟩
  rcases Coordinator.exists_writeAll serves alone reachable noFaults
    (Option.isSome_iff_exists.mpr ⟨_, there⟩) (front ++ document :: rest) with
    ⟨sameOutcomes, _, _, runs, passes⟩
  rcases delivers.ends with ⟨_, _, alsoRuns, _⟩
  rw [runs, Prod.mk.injEq, Except.ok.injEq, Run.mk.injEq] at alsoRuns
  rw [← alsoRuns.1.2]
  exact passes.forall_outcome fun _ _ _ _ completes => completes.done

/-! ## Two documents -/

/-- A failure of a call that was refused. -/
def rejection : Failure :=
  .of (.accessFailed "rejected")

/-- A service that refuses fetches and batches of certain numbers. -/
def Session.failing (fetches updates : List Nat) : Session Service :=
  .onText [] ⟨fetches.map (·, rejection), updates.map (·, rejection), [], [], [], none⟩

theorem lookup_rejection {numbers : List Nat} {number : Nat} {failure : Failure}
    (planned : (numbers.map (·, rejection)).lookup number = some failure) :
    number ∈ numbers ∧ failure = rejection := by
  induction numbers with
  | nil => cases planned
  | cons first rest step =>
      rw [List.map_cons, List.lookup_cons] at planned
      split at planned
      · rename_i same
        rw [beq_iff_eq] at same
        cases planned
        exact ⟨same ▸ List.mem_cons_self, rfl⟩
      · exact (step planned).imp_left (List.mem_cons_of_mem _)

theorem Confined.of_failing {coordinator : Coordinator Service} {documentId : String}
    {front : List SourceDocument} {document : SourceDocument} {fetches updates : List Nat}
    (fetchesInside : ∀ number ∈ fetches,
      (coordinator.countsAfter documentId front (.failing fetches updates)).fetch ≤ number ∧
        number < (coordinator.countsAfter documentId (front ++ [document])
          (.failing fetches updates)).fetch)
    (updatesInside : ∀ number ∈ updates,
      (coordinator.countsAfter documentId front (.failing fetches updates)).update ≤ number ∧
        number < (coordinator.countsAfter documentId (front ++ [document])
          (.failing fetches updates)).update) :
    Confined coordinator documentId front document (.failing fetches updates) where
  numbered := ⟨rfl, rfl, rfl, rfl⟩
  fetch := fun _ _ planned => fetchesInside _ (lookup_rejection planned).1
  update := fun _ _ planned => updatesInside _ (lookup_rejection planned).1
  tame := by
    rintro number failure (planned | planned)
    · rw [(lookup_rejection planned).2]
      exact ⟨rfl, rfl⟩
    · rw [(lookup_rejection planned).2]
      exact ⟨rfl, rfl⟩

/-- A document with a text. -/
def unlinked : SourceDocument :=
  ⟨"a.md", "A", "x\n".toList, "", none⟩

/-- A document with a link. -/
def linked : SourceDocument :=
  ⟨"b.md", "B", "[a](http://a)\n".toList, "", none⟩

theorem Coordinator.Reaches.eq_nil {issued : Target → Prop} {shown : Buffer}
    (areTokens : ∀ target, issued target → target.token.IsToken)
    (reaches : Coordinator.Reaches issued [] shown) : shown = [] := by
  induction reaches with
  | refl => rfl
  | tail _ renders step =>
      subst step
      apply renders.eq_of_absent
      intro target isIssued isInfix
      exact (areTokens target isIssued).ne_nil (List.infix_nil.mp isInfix)

theorem unlinked_built {built : Placeholder.Built}
    (gives : Coordinator.plain.build unlinked .initial = .ok built) :
    targets built.links built.images = [] ∧
      (Coordinator.plain.compiled built.markdown).units = ['x', '\n'].map .char ∧
      (Coordinator.plain.compiled built.markdown).requests.flatMap Request.units =
        ['x', '\n'].map .char := by
  have parts : (Coordinator.plain.build unlinked .initial).toOption.map (fun built =>
      (targets built.links built.images, (Coordinator.plain.compiled built.markdown).units,
        (Coordinator.plain.compiled built.markdown).requests.flatMap Request.units)) =
      some ([], ['x', '\n'].map .char, ['x', '\n'].map .char) := by
    decide +kernel
  rw [gives, Except.toOption, Option.map_some, Option.some.injEq, Prod.mk.injEq,
    Prod.mk.injEq] at parts
  exact parts
theorem unlinked_becomes {own : Buffer}
    (becomes : Coordinator.plain.Becomes .initial unlinked own) : own.text.length ≤ 2 := by
  rcases becomes with rfl | ⟨built, gives, rfl | renders⟩
  · simp
  · rw [(unlinked_built gives).2.2, Buffer.text_chars]
    simp
  · rw [(unlinked_built gives).1, (unlinked_built gives).2.1] at renders
    rw [renders.eq_of_absent fun _ isTarget => absurd isTarget List.not_mem_nil, Buffer.text_chars]
    simp


theorem unmixed_linked : Coordinator.plain.Unmixed
    (Coordinator.plain.Issues .initial [unlinked, linked]) [] .initial [unlinked, linked] := by
  have owned (target : Target)
      (issues : Coordinator.plain.Issues .initial [unlinked, linked] target) :
      Coordinator.plain.Owns (Coordinator.plain.builderAfter unlinked .initial) linked target := by
    rw [Coordinator.issues_cons, Coordinator.issues_cons] at issues
    rcases issues with ⟨built, gives, isTarget⟩ | owns | issues
    · rw [(unlinked_built gives).1] at isTarget
      exact absurd isTarget List.not_mem_nil
    · exact owns
    · exact absurd issues Coordinator.not_issues_nil
  refine .cons ?_ (.cons ?_ (.nil _))
  · intro own becomes shown reaches target issues place stands
    cases reaches.eq_nil fun _ issues => issues.isToken
    rw [List.nil_append] at stands
    rcases issues.isToken with ⟨inner, isToken, _⟩
    have within := stands.within issues.isToken.ne_nil
    have short := unlinked_becomes becomes
    rw [isToken] at within
    simp at within
    omega
  · intro own becomes shown reaches target issues place stands
    cases reaches.eq_nil fun _ issues => issues.isToken
    exact .inr ⟨Nat.zero_le _, owned target issues⟩

/-- When the first fetch of a document fails, a document behind it gets its link all the same. -/
theorem isolates_linked :
    ∃ outcomes otherOutcomes kept own otherOwn later,
      Delivers .plain "handbook" [] [unlinked, linked] (.onText [] .none) outcomes
        (kept ++ own :: later) ∧
      Delivers .plain "handbook" [] [unlinked, linked] (.failing [0] []) otherOutcomes
        (kept ++ otherOwn :: later) ∧
      kept.length = 0 ∧ (∀ outcome ∈ outcomes, outcome.phase = .done) ∧
      ∀ outcome ∈ otherOutcomes.eraseIdx 0, outcome.phase = .done := by
  have confined : Confined .plain "handbook" [] unlinked (.failing [0] []) :=
    .of_failing (by decide +kernel) (by decide +kernel)
  exact @Confined.isolates .plain "handbook" [] unlinked [] [linked] (.onText [] .none)
    (.failing [0] []) rfl rfl (Service.reachable_ofTexts _ _) (Service.reachable_ofTexts _ _) rfl rfl
    rfl rfl confined unmixed_linked

/-- A document whose link, when its token is replaced, makes the token of the next link together with
the brackets behind it. -/
def misleading : SourceDocument :=
  ⟨"a.md", "A", "[[[[LINK_1](http://x)]]]\n".toList, "", none⟩

/-- The text of the run's document after two documents, behind that after the first one, is what the
second one has contributed. -/
theorem Adds.exists_lengths {coordinator : Coordinator Service} {documentId : String}
    {first second : SourceDocument} {session last : Session Service} {outcomes : List Outcome}
    {own later : Buffer}
    (adds : Adds coordinator documentId [first, second] session [] [] outcomes [own, later] last) :
    ∃ body final,
      ((coordinator.writeAll [first] documentId).run session).2.remote.body? documentId = some body ∧
      ((coordinator.writeAll [first, second] documentId).run session).2.remote.body? documentId =
        some final ∧
      final.text.length = body.text.length + later.text.length := by
  have unchanged {builder : Placeholder.BuilderState} {document : SourceDocument} {shown : Buffer}
      (edits : Renders (coordinator.Owns builder document) [] shown) : shown = [] :=
    edits.eq_of_absent fun target owns isInfix => owns.isToken.ne_nil (List.infix_nil.mp isInfix)
  cases adds with
  | cons _ records edits adds following =>
      cases following with
      | cons _ laterRecords laterEdits laterAdds following =>
          cases following
          cases unchanged edits
          cases unchanged laterEdits
          have one : Passes coordinator documentId (fun _ _ _ _ => True) [first] session _ _ :=
            .cons records trivial (.nil _)
          have both : Passes coordinator documentId (fun _ _ _ _ => True) [first, second] session _ _ :=
            .cons records trivial (.cons laterRecords trivial (.nil _))
          rcases one.exists_run with ⟨_, oneRuns⟩
          rcases both.exists_run with ⟨_, bothRuns⟩
          rw [oneRuns, bothRuns]
          refine ⟨_, _, adds, laterAdds, ?_⟩
          simp only [List.nil_append, Buffer.text_append, List.length_append]
          omega

/-- No text, link text or address of either document holds a token but the document's own. Without
faults, the replaced link of the first document makes the token of the second one, which stands twice
then and stays; when the replacement fails, it stands once and is replaced. -/
theorem not_isolates :
    (Coordinator.plain.build misleading .initial).toOption.map (fun built =>
        (built.markdown, built.links.map fun link => (link.display, link.url))) =
      some ("[[[LINK_0]]]]]]\n".toList, [("[[[LINK_1".toList, "http://x".toList)]) ∧
    (Coordinator.plain.build linked (Coordinator.plain.builderAfter misleading .initial)).toOption.map
        (fun built => (built.markdown, built.links.map fun link => (link.display, link.url))) =
      some ("[[[LINK_1]]]\n".toList, [("a".toList, "http://a".toList)]) ∧
    Confined .plain "handbook" [] misleading (.failing [] [1]) ∧
    ¬ ∃ outcomes otherOutcomes own otherOwn later last otherLast,
      Adds .plain "handbook" [misleading, linked] (.onText [] .none) [] [] outcomes [own, later]
        last ∧
      Adds .plain "handbook" [misleading, linked] (.failing [] [1]) [] [] otherOutcomes
        [otherOwn, later] otherLast := by
  refine ⟨by decide +kernel, by decide +kernel,
    .of_failing (by decide +kernel) (by decide +kernel), ?_⟩
  rintro ⟨outcomes, otherOutcomes, own, otherOwn, later, last, otherLast, adds, otherAdds⟩
  have length (documents : List SourceDocument) (session : Session Service) {body : Buffer}
      {count : Nat}
      (there : ((Coordinator.plain.writeAll documents "handbook").run session).2.remote.body?
        "handbook" = some body)
      (counted : (((Coordinator.plain.writeAll documents "handbook").run session).2.remote.body?
        "handbook").map (fun body => body.text.length) = some count) : body.text.length = count := by
    rw [there, Option.map_some, Option.some.injEq] at counted
    exact counted
  rcases adds.exists_lengths with ⟨body, final, there, finalThere, lengths⟩
  rcases otherAdds.exists_lengths with ⟨other, otherFinal, otherThere, otherFinalThere, otherLengths⟩
  have first : body.text.length = 14 := length _ _ there (by decide +kernel)
  have second : final.text.length = 27 := length _ _ finalThere (by decide +kernel)
  have third : other.text.length = 17 := length _ _ otherThere (by decide +kernel)
  have fourth : otherFinal.text.length = 19 := length _ _ otherFinalThere (by decide +kernel)
  omega

end DocBinder.Sync
