import DocBinder.Proofs.Sync.Runs

/-!
# Asking for new access

A preparation that is denied access asks for new access and is tried once more, whether its document
is known, gone or not yet made. Nothing comes of an attempt that fails: a document is made or cleared
by the last call of an attempt only. No other part of a run asks for new access, since writing is made
of fetches and batches.
-/

namespace DocBinder

open Docs

namespace Docs.Service

/-- How often it was tried to have new access: the calls for each of its three steps. -/
def renewals (service : Service) : Nat × Nat × Nat :=
  (service.counts.clearTokens, service.counts.authenticate, service.counts.reset)

/-- No body has changed, and no document was made. -/
structure Spared (before after : Service) : Prop where
  bodies : after.body? = before.body?
  created : after.created = before.created

/-- A document holds nothing but its final line feed. No other body has changed, and no other document
was made. -/
structure Emptied (documentId : String) (before after : Service) : Prop where
  bodies : after.body? = Function.update before.body? documentId (some [BodyUnit.lineFeed])
  created : after.created = before.created ∨ after.created = before.created ++ [documentId]

/-- Each step to new access was tried once at most, and only if access was denied. -/
structure Renewed (denied : Prop) (before after : Service) : Prop where
  clearTokens : after.counts.clearTokens ≤ before.counts.clearTokens + 1
  authenticate : after.counts.authenticate ≤ before.counts.authenticate + 1
  reset : after.counts.reset ≤ before.counts.reset + 1
  onlyDenied : ¬ denied → after.renewals = before.renewals

/-- Nothing has come of calls, and none of them asked for new access. -/
structure Idle (before after : Service) : Prop extends Spared before after where
  renewals : after.renewals = before.renewals

variable {first second third service : Service} {documentId : String}

theorem Spared.refl (service : Service) : Spared service service :=
  ⟨rfl, rfl⟩

theorem Spared.trans (spared : Spared first second) (further : Spared second third) :
    Spared first third :=
  ⟨further.bodies.trans spared.bodies, further.created.trans spared.created⟩

theorem Spared.sound (spared : Spared first second) (sound : contract.Sound first) :
    contract.Sound second := by
  intro documentId body found
  have same : first.body? documentId = some body := by
    rw [← spared.bodies]
    exact found
  exact sound documentId body same

theorem Spared.emptied (spared : Spared first second) (emptied : Emptied documentId second third) :
    Emptied documentId first third := by
  rcases emptied with ⟨bodies, created⟩
  rw [spared.bodies] at bodies
  rw [spared.created] at created
  exact ⟨bodies, created⟩

theorem Idle.refl (service : Service) : Idle service service :=
  ⟨.refl service, rfl⟩

theorem Idle.trans (idle : Idle first second) (further : Idle second third) : Idle first third :=
  ⟨idle.toSpared.trans further.toSpared, further.renewals.trans idle.renewals⟩

theorem Renewed.of_renewals {denied : Prop} {before after : Service}
    (same : after.renewals = before.renewals) : Renewed denied before after := by
  have parts := same
  simp only [renewals, Prod.mk.injEq] at parts
  exact ⟨by omega, by omega, by omega, fun _ => same⟩

/-- What asks for no access before and after does not count. -/
theorem Renewed.congr {denied : Prop} {before after : Service} (renewed : Renewed denied first second)
    (begins : first.renewals = before.renewals) (ends : after.renewals = second.renewals) :
    Renewed denied before after := by
  refine ⟨?_, ?_, ?_, fun allowed => ends.trans ((renewed.onlyDenied allowed).trans begins)⟩
  all_goals
    simp only [renewals, Prod.mk.injEq] at begins ends
    have := renewed.clearTokens
    have := renewed.authenticate
    have := renewed.reset
    omega

/-! ## Calls -/

/-- A fetch shows the body of a document that exists. -/
theorem meets_fetch_idle (service : Service) (documentId : String) :
    Meets (remote.fetch documentId) service
      (fun value reached => Idle service reached ∧ ∃ body title,
        reached.body? documentId = some body ∧ value = body.toDocument documentId title)
      (fun _ reached => Idle service reached) := by
  refine .bind (.get (.bind (.set _ (.bind (meets_planned ?_ ?_)))))
  · intro failure _
    exact ⟨⟨rfl, rfl⟩, rfl⟩
  · intro _
    refine .bind (.bind (.get ?_))
    split
    · rename_i document found
      have shows := id_of_find? found
      subst shows
      exact .pure _ (.pure _ ⟨⟨⟨rfl, rfl⟩, rfl⟩, document.body, document.title,
        Option.map_eq_some_iff.mpr ⟨document, found, rfl⟩, rfl⟩)
    · exact .throw _ ⟨⟨rfl, rfl⟩, rfl⟩

/-- A document that is made is the only one, and empty. -/
theorem meets_create_emptied (service : Service) (title : String) :
    Meets (remote.create title) service
      (fun value reached => reached.renewals = service.renewals ∧ ∃ documentId title,
        Emptied documentId service reached ∧
        value = (Buffer.ofText []).toDocument documentId title)
      (fun _ reached => Idle service reached) := by
  refine .bind (.get (.bind (.set _ (.bind (meets_planned ?_ ?_)))))
  · intro failure _
    exact ⟨⟨rfl, rfl⟩, rfl⟩
  · intro _
    exact .bind (.modify _ (.pure _ ⟨rfl, _, title, ⟨body?_of_append rfl, .inr rfl⟩, rfl⟩))

/-- A batch makes no document and asks for no access. If it changes anything, it is a body as its
requests say. -/
theorem meets_update_idle (service : Service) (documentId : String) (requests : List Request) :
    Meets (remote.update documentId requests) service
      (fun _ reached => (reached.created = service.created ∧ reached.renewals = service.renewals) ∧
        (requests ≠ [] → ∃ body next effects, service.body? documentId = some body ∧
          applyBatch body requests = .ok (next, effects) ∧
          reached.body? = Function.update service.body? documentId (some next)))
      (fun _ reached => Idle service reached) := by
  change Meets (update documentId requests) service _ _
  rw [update]
  split
  · rename_i empty
    exact .pure _ ⟨⟨rfl, rfl⟩, fun nonempty => absurd (List.isEmpty_iff.mp empty) nonempty⟩
  · refine .bind (.get (.bind (.set _ (.bind (meets_planned ?_ ?_)))))
    · intro failure _
      exact ⟨⟨rfl, rfl⟩, rfl⟩
    · intro _
      dsimp only
      split
      · exact .throw _ ⟨⟨rfl, rfl⟩, rfl⟩
      · refine .bind (.bind (.get ?_))
        split
        · rename_i document found
          refine .pure _ ?_
          have there : service.body? documentId = some document.body :=
            Option.map_eq_some_iff.mpr ⟨document, found, rfl⟩
          split
          · exact .throw _ ⟨⟨rfl, rfl⟩, rfl⟩
          · rename_i next effects applies
            exact .modify _ ⟨⟨rfl, rfl⟩, fun _ => ⟨_, next, effects, there, applies,
              body?_setBody there⟩⟩
        · exact .throw _ ⟨⟨rfl, rfl⟩, rfl⟩

/-- A call that is a step to new access does nothing but count. -/
theorem meets_renewal_spared {operation : Call Service Unit} {attempt : Attempt}
    (isStep : (operation, attempt) ∈ [(remote.clearTokens, .clearTokens),
      (remote.authenticate, .authenticate), (remote.reset, .reset)]) (service : Service) :
    Meets operation service
      (fun _ reached => Spared service reached ∧ reached.counts = count service.counts attempt)
      (fun _ reached => Spared service reached ∧ reached.counts = count service.counts attempt) := by
  simp only [List.mem_cons, List.not_mem_nil, or_false, Prod.mk.injEq] at isStep
  rcases isStep with ⟨rfl, rfl⟩ | ⟨rfl, rfl⟩ | ⟨rfl, rfl⟩
  · exact .modify _ ⟨⟨rfl, rfl⟩, rfl⟩
  · refine .bind (.modify _ (.bind (.get ?_)))
    dsimp only
    split
    · exact .throw _ ⟨⟨rfl, rfl⟩, rfl⟩
    · exact .pure _ ⟨⟨rfl, rfl⟩, rfl⟩
  · exact .modify _ ⟨⟨rfl, rfl⟩, rfl⟩

end Docs.Service

namespace Sync

open Service (Spared Emptied Renewed Idle)

namespace Coordinator

/-! ## One attempt -/

section Attempt

variable {coordinator : Coordinator Service} (serves : coordinator.remote = Service.remote)
  (session : Session Service)

include serves

/-- A known document is found with its body, or nothing has come of looking for it. -/
theorem meets_findKnown_idle (known : Option String) :
    Meets (coordinator.findKnown known) session
      (fun found reached => Idle session.remote reached.remote ∧
        ∀ documentId document, found = some (documentId, document) → ∃ body title,
          reached.remote.body? documentId = some body ∧
          document = body.toDocument documentId title)
      (fun _ reached => Idle session.remote reached.remote) := by
  rw [findKnown]
  split
  · rename_i documentId _
    have fetches := Service.meets_fetch_idle session.remote documentId
    rw [← serves] at fetches
    refine .bind (.bind (.attempt (.call (fetches.mono ?_ ?_))))
    · rintro _ remote ⟨idle, body, title, there, rfl⟩
      refine .pure _ (.pure _ ⟨idle, ?_⟩)
      rintro _ _ ⟨⟩
      exact ⟨body, title, there, rfl⟩
    · rintro failure remote idle
      dsimp only
      split
      · refine .bind (.report _ (.pure _ (.pure _ ⟨idle, ?_⟩)))
        rintro _ _ ⟨⟩
      · exact .throw _ idle
  · refine .pure _ ⟨.refl _, ?_⟩
    rintro _ _ ⟨⟩

/-- A document that was found is handed on; otherwise one is made, which is empty. -/
theorem meets_makeMissing_idle {found : Option (String × Value)}
    (shows : ∀ documentId document, found = some (documentId, document) → ∃ body title,
      session.remote.body? documentId = some body ∧ document = body.toDocument documentId title)
    (title : String) :
    Meets (coordinator.makeMissing title found) session
      (fun made reached => reached.remote.renewals = session.remote.renewals ∧ ∃ body title,
        reached.remote.body? made.1 = some body ∧ made.2 = body.toDocument made.1 title ∧
        (Spared session.remote reached.remote ∨
          Emptied made.1 session.remote reached.remote ∧ body = [BodyUnit.lineFeed]))
      (fun _ reached => Idle session.remote reached.remote) := by
  rcases found with _ | ⟨documentId, document⟩
  · have creates := Service.meets_create_emptied session.remote title
    rw [← serves] at creates
    refine .bind (.call (creates.mono ?_ fun _ _ idle => idle))
    rintro _ remote ⟨renewals, documentId, title, emptied, rfl⟩
    refine .pure _ ⟨renewals, _, title, ?_, rfl, .inr ⟨emptied, rfl⟩⟩
    dsimp only
    rw [emptied.bodies]
    exact Function.update_self ..
  · rcases shows _ _ rfl with ⟨body, title, there, isDocument⟩
    exact .pure _ ⟨rfl, body, title, there, isDocument, .inl (.refl _)⟩

/-- Clearing leaves a document empty; only what holds more than its final line feed takes a call. -/
theorem meets_clear_idle {documentId : String} {body : Buffer}
    (there : session.remote.body? documentId = some body) (wellFormed : body.WellFormed)
    (title : String) :
    Meets (coordinator.clear documentId (body.toDocument documentId title)) session
      (fun cleared reached => cleared = documentId ∧
        reached.remote.body? =
          Function.update session.remote.body? documentId (some [BodyUnit.lineFeed]) ∧
        reached.remote.created = session.remote.created ∧
        reached.remote.renewals = session.remote.renewals)
      (fun _ reached => Idle session.remote reached.remote ∧ body ≠ [BodyUnit.lineFeed]) := by
  have stop : (Snapshot.ofDocument (body.toDocument documentId title)).endIndex = body.endIndex :=
    Buffer.endIndex_view wellFormed documentId title
  rw [clear, stop]
  rcases exists_clears wellFormed with ⟨short, rfl⟩ | ⟨long, effects, clears⟩
  · rw [if_neg (by omega)]
    exact .pure _ ⟨rfl, by rw [← there, Function.update_eq_self], rfl, rfl⟩
  · have updates := Service.meets_update_idle session.remote documentId
      [.deleteRange 1 (body.endIndex - 1)]
    rw [← serves] at updates
    rw [if_pos long]
    refine .bind (.report _ (.bind (.call (updates.mono ?_ ?_))))
    · rintro _ remote ⟨⟨created, renewals⟩, changes⟩
      rcases changes (List.cons_ne_nil _ _) with ⟨shown, next, _, isShown, applies, bodies⟩
      cases there.symm.trans isShown
      cases clears.symm.trans applies
      exact .pure _ ⟨rfl, bodies, created, renewals⟩
    · rintro _ remote idle
      refine ⟨idle, ?_⟩
      rintro rfl
      exact absurd long (by decide)

/-- An attempt gives a document that is empty then, or nothing has come of it. -/
theorem meets_prepareOnce_idle (sound : Service.contract.Sound session.remote)
    (known : Option String) (title : String) :
    Meets (coordinator.prepareOnce known title) session
      (fun documentId reached => Emptied documentId session.remote reached.remote ∧
        reached.remote.renewals = session.remote.renewals)
      (fun _ reached => Idle session.remote reached.remote) := by
  rw [prepareOnce_eq]
  refine .bind ((meets_findKnown_idle serves session known).mono ?_ fun _ _ idle => idle)
  rintro found asked ⟨idle, shows⟩
  refine .bind ((meets_makeMissing_idle serves asked shows title).mono ?_
    fun _ _ further => idle.trans further)
  rintro ⟨documentId, document⟩ made ⟨renewals, body, shownTitle, there, isDocument, came⟩
  dsimp only at there isDocument came ⊢
  have wellFormed : body.WellFormed := by
    rcases came with spared | ⟨_, rfl⟩
    · exact (idle.trans ⟨spared, renewals⟩).sound sound documentId body there
    · exact Buffer.wellFormed_ofText []
  rw [isDocument]
  refine (meets_clear_idle serves made there wellFormed shownTitle).mono ?_ ?_
  · rintro _ reached ⟨rfl, bodies, created, unrenewed⟩
    refine ⟨idle.emptied ?_, unrenewed.trans (renewals.trans idle.renewals)⟩
    rcases came with spared | ⟨emptied, _⟩
    · exact spared.emptied ⟨bodies, .inl created⟩
    · refine ⟨?_, ?_⟩
      · rw [bodies, emptied.bodies, Function.update_idem]
      · rw [created]
        exact emptied.created
  · rintro _ reached ⟨further, nonempty⟩
    rcases came with spared | ⟨_, rfl⟩
    · exact idle.trans (.trans ⟨spared, renewals⟩ further)
    · exact absurd rfl nonempty

/-- New access takes each of its steps at most once, and changes nothing else. -/
theorem meets_reauthenticate_spared {denied : Prop} (isDenied : denied) :
    Meets coordinator.reauthenticate session
      (fun _ reached => Spared session.remote reached.remote ∧
        Renewed denied session.remote reached.remote)
      (fun _ reached => Spared session.remote reached.remote ∧
        Renewed denied session.remote reached.remote) := by
  have steps (attempt : Attempt) {operation : Call Service Unit} {before : Session Service}
      (isStep : (operation, attempt) ∈ [(coordinator.remote.clearTokens, .clearTokens),
        (coordinator.remote.authenticate, .authenticate), (coordinator.remote.reset, .reset)])
      (spared : Spared session.remote before.remote) :
      Meets (Step.call operation) before
        (fun _ reached => Spared session.remote reached.remote ∧
          reached.remote.counts = Service.count before.remote.counts attempt)
        (fun _ reached => Spared session.remote reached.remote ∧
          reached.remote.counts = Service.count before.remote.counts attempt) := by
    rw [serves] at isStep
    exact .call ((Service.meets_renewal_spared isStep before.remote).mono
      (fun _ _ holds => ⟨spared.trans holds.1, holds.2⟩)
      fun _ _ holds => ⟨spared.trans holds.1, holds.2⟩)
  refine .bind ((steps .clearTokens (by simp) (.refl _)).mono ?_ ?_)
  · rintro _ cleared ⟨spared, clearedCounts⟩
    refine .bind ((steps .authenticate (by simp) spared).mono ?_ ?_)
    · rintro _ asked ⟨spared, askedCounts⟩
      refine (steps .reset (by simp) spared).mono ?_ ?_ <;>
      · rintro _ reached ⟨spared, counts⟩
        rw [askedCounts, clearedCounts] at counts
        refine ⟨spared, ?_, ?_, ?_, fun allowed => absurd isDenied allowed⟩ <;>
          simp [counts, Service.count]
    · rintro _ asked ⟨spared, counts⟩
      rw [clearedCounts] at counts
      refine ⟨spared, ?_, ?_, ?_, fun allowed => absurd isDenied allowed⟩ <;>
        simp [counts, Service.count]
  · rintro _ cleared ⟨spared, counts⟩
    refine ⟨spared, ?_, ?_, ?_, fun allowed => absurd isDenied allowed⟩ <;>
      simp [counts, Service.count]

end Attempt

/-! ## A preparation -/

/-- The first attempt of a preparation is denied access. -/
def Denied (coordinator : Coordinator Service) (known : Option String) (title : String)
    (session : Session Service) : Prop :=
  ∃ failure middle, (coordinator.prepareOnce known title).run session = (.error failure, middle) ∧
    failure.cause.isPermissionDenied = true

/-- What comes of a preparation in any case: new access is asked for once at most, and only when the
first attempt is denied access. -/
theorem meets_prepare_renewed {coordinator : Coordinator Service} {session : Session Service}
    (serves : coordinator.remote = Service.remote)
    (sound : Service.contract.Sound session.remote) (known : Option String) (title : String) :
    Meets (coordinator.prepare known title) session
      (fun documentId reached => Emptied documentId session.remote reached.remote ∧
        Renewed (coordinator.Denied known title session) session.remote reached.remote)
      (fun _ reached => Spared session.remote reached.remote ∧
        Renewed (coordinator.Denied known title session) session.remote reached.remote) := by
  refine .tryCatch ((meets_prepareOnce_idle serves session sound known title).run.mono ?_ ?_)
  · rintro documentId reached ⟨_, emptied, renewals⟩
    exact ⟨emptied, .of_renewals renewals⟩
  · rintro failure middle ⟨runs, idle⟩
    split
    · rename_i isDenied
      have denied : coordinator.Denied known title session := ⟨failure, middle, runs, isDenied⟩
      refine .bind (.report _ (.bind ((meets_reauthenticate_spared serves _ denied).mono ?_ ?_)))
      · rintro _ asked ⟨spared, renewed⟩
        have before : Spared session.remote asked.remote := idle.toSpared.trans spared
        refine (meets_prepareOnce_idle serves asked (before.sound sound) known title).mono ?_ ?_
        · rintro documentId reached ⟨emptied, renewals⟩
          exact ⟨before.emptied emptied, renewed.congr idle.renewals renewals⟩
        · rintro again reached further
          exact ⟨before.trans further.toSpared, renewed.congr idle.renewals further.renewals⟩
      · rintro again asked ⟨spared, renewed⟩
        exact ⟨idle.toSpared.trans spared, renewed.congr idle.renewals rfl⟩
    · exact .throw _ ⟨idle.toSpared, .of_renewals idle.renewals⟩

/-- When its first attempt is denied access, a preparation comes to whatever new access and a second
attempt come to. -/
theorem run_prepare_denied {coordinator : Coordinator Service} {session denied : Session Service}
    {known : Option String} {title : String} {failure : Failure}
    (runs : (coordinator.prepareOnce known title).run session = (.error failure, denied))
    (isDenied : failure.cause.isPermissionDenied = true) :
    (coordinator.prepare known title).run session =
      (do coordinator.reauthenticate; coordinator.prepareOnce known title : Step Service String).run
        { denied with log := denied.log ++ [line .warning
          s!"{failure.message}; re-authenticating and retrying initialization once"] } := by
  rw [prepare, run_tryCatch, runs]
  dsimp only
  rw [if_pos isDenied]
  rfl

/-- Writing never asks for new access. -/
theorem meets_writeAll_renewals {coordinator : Coordinator Service} {session : Session Service}
    (serves : coordinator.remote = Service.remote) (documents : List SourceDocument)
    (documentId : String) :
    Meets (coordinator.writeAll documents documentId) session
      (fun _ reached => reached.remote.renewals = session.remote.renewals)
      (fun _ reached => reached.remote.renewals = session.remote.renewals) := by
  refine meets_writeAll_remote (fun service : Service => service.renewals = session.remote.renewals)
    (fun other state same => ?_) (fun other requests state same => ?_) documents documentId rfl
  · rw [serves]
    exact (Service.meets_fetch_idle state other).mono
      (fun _ _ shown => shown.1.renewals.trans same) fun _ _ idle => idle.renewals.trans same
  · rw [serves]
    exact (Service.meets_update_idle state other requests).mono
      (fun _ _ changed => changed.1.2.trans same) fun _ _ idle => idle.renewals.trans same

/-- Whatever document is known and whatever calls fail, a preparation gives a document that holds
nothing but its final line feed, with all other bodies as they were and no other document made, or it
fails and leaves every body as it was. New access is asked for once at most, after the first attempt
was denied access and by none of its calls, and a second attempt is the last. Writing documents never
asks for new access. -/
theorem prepares_once {coordinator : Coordinator Service} {session : Session Service}
    (serves : coordinator.remote = Service.remote)
    (reachable : Service.contract.Reachable session.remote) (known : Option String)
    (title : String) :
    Meets (coordinator.prepare known title) session
      (fun documentId reached => Emptied documentId session.remote reached.remote ∧
        Renewed (coordinator.Denied known title session) session.remote reached.remote)
      (fun _ reached => Spared session.remote reached.remote ∧
        Renewed (coordinator.Denied known title session) session.remote reached.remote) ∧
    (∀ failure denied,
      (coordinator.prepareOnce known title).run session = (.error failure, denied) →
      failure.cause.isPermissionDenied = true →
      denied.remote.renewals = session.remote.renewals ∧
      (coordinator.prepare known title).run session =
        (do coordinator.reauthenticate; coordinator.prepareOnce known title :
            Step Service String).run
          { denied with log := denied.log ++ [line .warning
            s!"{failure.message}; re-authenticating and retrying initialization once"] }) ∧
    ∀ documents documentId, Meets (coordinator.writeAll documents documentId) session
      (fun _ reached => reached.remote.renewals = session.remote.renewals)
      (fun _ reached => reached.remote.renewals = session.remote.renewals) := by
  refine ⟨meets_prepare_renewed serves reachable.sound known title, ?_,
    meets_writeAll_renewals serves⟩
  intro failure denied runs isDenied
  have idle := meets_prepareOnce_idle serves session reachable.sound known title
  rw [Meets, runs] at idle
  exact ⟨idle.renewals, run_prepare_denied runs isDenied⟩

end Coordinator

/-- A session on a service that denies access to its first fetch, and to its first batch too. -/
def Session.deniedTwice : Session Service :=
  .onText "Old".toList
    { Faults.none with
      fetch := [(0, .of (.permissionDenied "get_document" (.int 403)))]
      update := [(0, .of (.permissionDenied "batch_update" (.int 403)))] }

theorem Coordinator.prepares_once_deniedTwice :
    Coordinator.plain.Denied (some "handbook") "Handbook" .deniedTwice ∧
    Meets (Coordinator.plain.prepare (some "handbook") "Handbook") .deniedTwice
      (fun documentId reached =>
        Emptied documentId Session.deniedTwice.remote reached.remote ∧
        Renewed (Coordinator.plain.Denied (some "handbook") "Handbook" .deniedTwice)
          Session.deniedTwice.remote reached.remote)
      (fun _ reached => Spared Session.deniedTwice.remote reached.remote ∧
        Renewed (Coordinator.plain.Denied (some "handbook") "Handbook" .deniedTwice)
          Session.deniedTwice.remote reached.remote) :=
  ⟨⟨_, _, rfl, rfl⟩,
    (Coordinator.prepares_once rfl (Service.reachable_ofTexts _ _) (some "handbook") "Handbook").1⟩

end Sync

end DocBinder
