import DocBinder.Proofs.Sync.Contract

/-!
# Preparing the remote document

Before a run, its document is made or cleared. Whatever bodies there are stay well formed; the
document that the preparation gives holds nothing but its final line feed. No body is changed before
the last call, so that a preparation that fails leaves all of them as they were.
-/

namespace DocBinder

open Docs

/-- All bodies of a remote are well formed. -/
def Docs.Remote.Contract.Sound {σ : Type} {remote : Remote σ} (contract : remote.Contract)
    (state : σ) : Prop :=
  ∀ documentId body, contract.body? state documentId = some body → body.WellFormed

namespace Sync

variable {σ : Type} {coordinator : Coordinator σ} (contract : coordinator.remote.Contract)

/-- A session came of another one, its bodies are well formed, and every document is still there. -/
structure Kept (origin session : Session σ) : Prop where
  leads : contract.Leads origin.remote session.remote
  sound : contract.Sound session.remote
  stays : ∀ documentId, (contract.body? origin.remote documentId).isSome →
    (contract.body? session.remote documentId).isSome

variable {contract} {origin session : Session σ}

theorem Kept.refl (sound : contract.Sound session.remote) : Kept contract session session :=
  ⟨contract.refl _, sound, fun _ stays => stays⟩

theorem Kept.log (kept : Kept contract origin session) (log : List Log.Line) :
    Kept contract origin { session with log := log } :=
  ⟨kept.leads, kept.sound, kept.stays⟩

theorem Kept.unchanged {remote : σ} (kept : Kept contract origin session)
    (leads : contract.Leads session.remote remote)
    (same : contract.body? remote = contract.body? session.remote) :
    Kept contract origin { session with remote := remote } where
  leads := contract.trans kept.leads leads
  sound documentId body found := kept.sound documentId body (same ▸ found)
  stays documentId there := by
    rw [same]
    exact kept.stays documentId there

theorem Kept.update {remote : σ} {documentId : String} {body : Buffer}
    (kept : Kept contract origin session) (leads : contract.Leads session.remote remote)
    (wellFormed : body.WellFormed)
    (bodies : contract.body? remote =
      Function.update (contract.body? session.remote) documentId (some body)) :
    Kept contract origin { session with remote := remote } where
  leads := contract.trans kept.leads leads
  sound other found same := by
    rw [bodies] at same
    by_cases isSame : other = documentId
    · subst isSame
      rw [Function.update_self, Option.some.injEq] at same
      exact same ▸ wellFormed
    · rw [Function.update_of_ne isSame] at same
      exact kept.sound other found same
  stays other there := by
    rw [bodies]
    by_cases isSame : other = documentId
    · subst isSame
      rw [Function.update_self]
      rfl
    · rw [Function.update_of_ne isSame]
      exact kept.stays other there

variable (contract) in
/-- A session came of another one, and no body has changed. -/
structure Untouched (origin session : Session σ) : Prop where
  kept : Kept contract origin session
  same : contract.body? session.remote = contract.body? origin.remote

theorem Untouched.refl (sound : contract.Sound session.remote) :
    Untouched contract session session :=
  ⟨.refl sound, rfl⟩

theorem Untouched.log (untouched : Untouched contract origin session) (log : List Log.Line) :
    Untouched contract origin { session with log := log } :=
  ⟨untouched.kept.log log, untouched.same⟩

theorem Untouched.unchanged {remote : σ} (untouched : Untouched contract origin session)
    (leads : contract.Leads session.remote remote)
    (same : contract.body? remote = contract.body? session.remote) :
    Untouched contract origin { session with remote := remote } :=
  ⟨untouched.kept.unchanged leads same, same.trans untouched.same⟩

namespace Coordinator

/-- The document that is known is fetched, unless it is told to be gone. -/
theorem meets_fetchKnown {documentId : String} {body : Buffer}
    (there : contract.body? session.remote documentId = some body)
    (untouched : Untouched contract origin session) :
    Meets (coordinator.fetchKnown documentId) session
      (fun found reached => Untouched contract origin reached ∧
        ∀ document, found = some document →
          ∃ title, contract.body? reached.remote documentId = some body ∧
            document = body.toDocument documentId title)
      (fun failure reached => Untouched contract origin reached ∧
        contract.Troubled failure origin.remote reached.remote) := by
  refine .bind (.attempt (.call ((contract.fetches there).mono ?_ ?_)))
  · rintro value remote ⟨leads, same, title, rfl⟩
    refine .pure _ ⟨untouched.unchanged leads same, ?_⟩
    rintro _ ⟨⟩
    exact ⟨title, by rw [← there, ← same], rfl⟩
  · rintro failure remote ⟨leads, same, troubled⟩
    dsimp only
    split
    · refine .bind (.report _ (.pure _ ⟨(untouched.unchanged leads same).log _, ?_⟩))
      rintro _ ⟨⟩
    · exact .throw _ ⟨untouched.unchanged leads same,
        contract.before untouched.kept.leads troubled⟩

/-- A body of more than its final line feed can be cleared. -/
theorem exists_clears {buffer : Buffer} (wellFormed : buffer.WellFormed) :
    (buffer.endIndex ≤ 2 ∧ buffer = [BodyUnit.lineFeed]) ∨ (2 < buffer.endIndex ∧
      ∃ effects, applyBatch buffer [.deleteRange 1 (buffer.endIndex - 1)] =
        .ok ([BodyUnit.lineFeed], effects)) := by
  rcases wellFormed.ends with ⟨body, rfl⟩
  have single : Buffer.width [BodyUnit.lineFeed] = 1 := rfl
  rcases List.eq_nil_or_concat body with rfl | ⟨front, unit, rfl⟩
  · exact .inl ⟨by decide, rfl⟩
  · have nonempty : front.concat unit ≠ [] := by simp
    have positive := Buffer.width_pos nonempty
    refine .inr ⟨by rw [Buffer.endIndex, Buffer.width_append, single]; omega, ⟨[], []⟩, ?_⟩
    have deletes := Request.apply_deleteRange [] [BodyUnit.lineFeed] nonempty
    have stop : Buffer.endIndex (front.concat unit ++ [BodyUnit.lineFeed]) - 1 =
        Buffer.width [] + Buffer.width (front.concat unit) + 1 := by
      rw [Buffer.endIndex, Buffer.width_append, single, Buffer.width_nil]
      omega
    rw [stop]
    exact applyBatch_cons deletes (applyBatch_nil _)

/-- The known document with its wire form, unless it is told to be gone. -/
def findKnown (coordinator : Coordinator σ) (known : Option String) :
    Step σ (Option (String × Value)) :=
  match known.filter fun documentId => !documentId.isEmpty with
  | some documentId => do
      return (← coordinator.fetchKnown documentId).map fun document => (documentId, document)
  | none => return none

/-- The document that was found, or a new one. -/
def makeMissing (coordinator : Coordinator σ) (title : String) :
    Option (String × Value) → Step σ (String × Value)
  | some found => return found
  | none => do
      let document ← Step.call (coordinator.remote.create title)
      match document.get? "documentId" with
      | some documentId => return (documentId.text, document)
      | none => throw (Failure.foreign "KeyError" "documentId")

/-- Clear a document of which the wire form is known. -/
def clear (coordinator : Coordinator σ) (documentId : String) (document : Value) :
    Step σ String := do
  let stop := (Snapshot.ofDocument document).endIndex
  if stop > 2 then
    Step.report [line .info s!"Clearing {stop - 2} character(s) from {documentId}"]
    Step.call (coordinator.remote.update documentId [.deleteRange 1 (stop - 1)])
  return documentId

theorem prepareOnce_eq (known : Option String) (title : String) :
    coordinator.prepareOnce known title = (do
      let found ← coordinator.findKnown known
      let (documentId, document) ← coordinator.makeMissing title found
      coordinator.clear documentId document) := by
  have makes (found : Option (String × Value)) (next : String × Value → Step σ String) :
      coordinator.makeMissing title found >>= next = match found with
        | some found => pure found >>= next
        | none => Step.call (coordinator.remote.create title) >>= fun document =>
            match document.get? "documentId" with
            | some documentId => pure (documentId.text, document) >>= next
            | none => throw (Failure.foreign "KeyError" "documentId") >>= next := by
    cases found with
    | some found => rfl
    | none =>
        rw [makeMissing, bind_assoc]
        refine bind_congr fun document => ?_
        split <;> rfl
  simp only [makes]
  rw [prepareOnce, findKnown]
  cases known.filter fun documentId => !documentId.isEmpty with
  | none => rfl
  | some documentId =>
      rw [bind_assoc]
      rfl

/-- The known document is found with its body, unless it is told to be gone. -/
theorem meets_findKnown {known : Option String}
    (there : ∀ documentId, known = some documentId →
      (contract.body? session.remote documentId).isSome)
    (untouched : Untouched contract origin session) :
    Meets (coordinator.findKnown known) session
      (fun found reached => Untouched contract origin reached ∧
        ∀ documentId document, found = some (documentId, document) →
          ∃ body title, contract.body? reached.remote documentId = some body ∧
            document = body.toDocument documentId title)
      (fun failure reached => Untouched contract origin reached ∧
        contract.Troubled failure origin.remote reached.remote) := by
  rw [findKnown]
  split
  · rename_i documentId isKnown
    rcases Option.isSome_iff_exists.mp
      (there documentId (Option.filter_eq_some_iff.mp isKnown).1) with ⟨body, there⟩
    refine .bind ((meets_fetchKnown there untouched).mono ?_ fun _ _ fails => fails)
    rintro found reached ⟨untouched, shows⟩
    refine .pure _ ⟨untouched, ?_⟩
    intro other document isFound
    rcases Option.map_eq_some_iff.mp isFound with ⟨document, rfl, same⟩
    rw [Prod.mk.injEq] at same
    rcases same with ⟨rfl, rfl⟩
    rcases shows document rfl with ⟨title, there, isDocument⟩
    exact ⟨body, title, there, isDocument⟩
  · refine .pure _ ⟨untouched, ?_⟩
    rintro _ _ ⟨⟩

/-- A document that had to be made holds only its final line feed. -/
theorem meets_makeMissing {found : Option (String × Value)}
    (shows : ∀ documentId document, found = some (documentId, document) →
      ∃ body title, contract.body? session.remote documentId = some body ∧
        document = body.toDocument documentId title)
    (untouched : Untouched contract origin session) (title : String) :
    Meets (coordinator.makeMissing title found) session
      (fun made reached => Kept contract origin reached ∧ ∃ body title,
        contract.body? reached.remote made.1 = some body ∧
        made.2 = body.toDocument made.1 title ∧
        (Untouched contract origin reached ∨ body = [BodyUnit.lineFeed]))
      (fun failure reached => Untouched contract origin reached ∧
        contract.Troubled failure origin.remote reached.remote) := by
  rcases found with _ | ⟨documentId, document⟩
  · refine .bind (.call ((contract.creates _ _).mono ?_ ?_))
    · rintro value remote ⟨leads, documentId, title, bodies, rfl⟩
      exact .pure _ ⟨untouched.kept.update leads (Buffer.wellFormed_ofText []) bodies, _, title,
        by rw [bodies]; exact Function.update_self .., rfl, .inr rfl⟩
    · rintro failure remote ⟨leads, same, troubled⟩
      exact ⟨untouched.unchanged leads same, contract.before untouched.kept.leads troubled⟩
  · rcases shows _ _ rfl with ⟨body, title, there, isDocument⟩
    exact .pure _ ⟨untouched.kept, body, title, there, isDocument, .inl untouched⟩

/-- Only a body of more than its final line feed takes a call to clear. -/
theorem meets_clear {documentId title : String} {body : Buffer}
    (there : contract.body? session.remote documentId = some body)
    (kept : Kept contract origin session)
    (untouched : Untouched contract origin session ∨ body = [BodyUnit.lineFeed]) :
    Meets (coordinator.clear documentId (body.toDocument documentId title)) session
      (fun documentId reached => Kept contract origin reached ∧
        contract.body? reached.remote documentId = some [BodyUnit.lineFeed])
      (fun failure reached => Untouched contract origin reached ∧
        contract.Troubled failure origin.remote reached.remote) := by
  have wellFormed := kept.sound _ _ there
  have stop : (Snapshot.ofDocument (body.toDocument documentId title)).endIndex = body.endIndex :=
    Buffer.endIndex_view wellFormed documentId title
  rw [clear, stop]
  rcases exists_clears wellFormed with ⟨short, rfl⟩ | ⟨long, effects, clears⟩
  · rw [if_neg (by omega)]
    exact .pure _ ⟨kept, there⟩
  · rw [if_pos long]
    rcases untouched with untouched | rfl
    · refine .bind (.report _ (.bind (.call ((contract.updates there (List.cons_ne_nil _ _)
        clears).mono ?_ ?_))))
      · rintro _ remote ⟨leads, bodies⟩
        exact .pure _ ⟨(kept.log _).update leads (Buffer.wellFormed_ofText []) bodies,
          by rw [bodies]; exact Function.update_self ..⟩
      · rintro failure remote ⟨leads, same, troubled⟩
        exact ⟨(untouched.log _).unchanged leads same, contract.before kept.leads troubled⟩
    · exact absurd long (by decide)

/-- A preparation gives a document that holds only its final line feed, or a call fails. -/
theorem meets_prepareOnce {known : Option String}
    (there : ∀ documentId, known = some documentId →
      (contract.body? session.remote documentId).isSome)
    (untouched : Untouched contract origin session) (title : String) :
    Meets (coordinator.prepareOnce known title) session
      (fun documentId reached => Kept contract origin reached ∧
        contract.body? reached.remote documentId = some [BodyUnit.lineFeed])
      (fun failure reached => Untouched contract origin reached ∧
        contract.Troubled failure origin.remote reached.remote) := by
  rw [prepareOnce_eq]
  refine .bind ((meets_findKnown there untouched).mono ?_ fun _ _ fails => fails)
  rintro found middle ⟨untouched, shows⟩
  refine .bind ((meets_makeMissing shows untouched title).mono ?_ fun _ _ fails => fails)
  rintro ⟨documentId, document⟩ reached ⟨kept, body, title, there, isDocument, untouched⟩
  dsimp only at there isDocument ⊢
  rw [isDocument]
  exact meets_clear there kept untouched

/-- New access changes no body. -/
theorem meets_reauthenticate (untouched : Untouched contract origin session) :
    Meets coordinator.reauthenticate session
      (fun _ reached => Untouched contract origin reached)
      (fun failure reached => Untouched contract origin reached ∧
        contract.Troubled failure origin.remote reached.remote) := by
  have renews {operation : Call σ Unit} {session : Session σ}
      (isOperation : operation ∈ [coordinator.remote.clearTokens, coordinator.remote.authenticate,
        coordinator.remote.reset]) (untouched : Untouched contract origin session) :
      Meets (Step.call operation) session (fun _ reached => Untouched contract origin reached)
        (fun failure reached => Untouched contract origin reached ∧
          contract.Troubled failure origin.remote reached.remote) := by
    refine .call ((contract.renews operation isOperation _).mono ?_ ?_)
    · rintro _ remote ⟨leads, same⟩
      exact untouched.unchanged leads same
    · rintro failure remote ⟨leads, same, troubled⟩
      exact ⟨untouched.unchanged leads same, contract.before untouched.kept.leads troubled⟩
  refine .bind ((renews (by simp) untouched).mono ?_ fun _ _ fails => fails)
  intro _ _ untouched
  refine .bind ((renews (by simp) untouched).mono ?_ fun _ _ fails => fails)
  intro _ _ untouched
  exact renews (by simp) untouched

/-- Preparing the remote document, with new access if it is needed. -/
theorem meets_prepare {known : Option String} (sound : contract.Sound session.remote)
    (there : ∀ documentId, known = some documentId →
      (contract.body? session.remote documentId).isSome) (title : String) :
    Meets (coordinator.prepare known title) session
      (fun documentId reached => Kept contract session reached ∧
        contract.body? reached.remote documentId = some [BodyUnit.lineFeed])
      (fun failure reached => Untouched contract session reached ∧
        contract.Troubled failure session.remote reached.remote) := by
  refine .tryCatch ((meets_prepareOnce there (.refl sound) title).mono (fun _ _ holds => holds) ?_)
  rintro failure middle ⟨untouched, troubled⟩
  split
  · refine .bind (.report _ (.bind ((meets_reauthenticate (untouched.log _)).mono ?_
      fun _ _ fails => fails)))
    intro _ renewed untouched
    exact meets_prepareOnce
      (fun documentId isKnown => untouched.kept.stays _ (there documentId isKnown)) untouched title
  · exact .throw _ ⟨untouched, troubled⟩

end Coordinator

/-! ## What a preparation leaves alone -/

/-- A step changes nothing of a session but the remote and the log, whether it fails or not. -/
def Step.Keeps {α : Type} (step : Step σ α) : Prop :=
  ∀ session, Meets step session (fun _ reached => session.Agrees reached)
    (fun _ reached => session.Agrees reached)

namespace Step.Keeps

variable {α β : Type}

theorem pure (value : α) : Keeps (pure value : Step σ α) :=
  fun _ => .pure value ⟨rfl, rfl, rfl⟩

theorem throw (failure : Failure) : Keeps (throw failure : Step σ α) :=
  fun _ => .throw failure ⟨rfl, rfl, rfl⟩

theorem bind {first : Step σ β} {next : β → Step σ α} (begins : Keeps first)
    (follows : ∀ value, Keeps (next value)) : Keeps (first >>= next) := by
  intro session
  refine .bind ((begins session).mono ?_ fun _ _ agrees => agrees)
  intro value middle agrees
  exact (follows value middle).mono (fun _ _ further => agrees.trans further)
    fun _ _ further => agrees.trans further

theorem tryCatch {step : Step σ α} {handler : Failure → Step σ α} (begins : Keeps step)
    (follows : ∀ failure, Keeps (handler failure)) : Keeps (tryCatch step handler) := by
  intro session
  refine .tryCatch ((begins session).mono (fun _ _ agrees => agrees) ?_)
  intro failure middle agrees
  exact (follows failure middle).mono (fun _ _ further => agrees.trans further)
    fun _ _ further => agrees.trans further

theorem attempt {step : Step σ α} (keeps : Keeps step) : Keeps (attempt step) :=
  fun session => .attempt ((keeps session).mono (fun _ _ agrees => agrees) fun _ _ agrees => agrees)

theorem call (operation : Call σ α) : Keeps (call operation) := by
  intro session
  refine .call ?_
  rw [Meets]
  split <;> exact ⟨rfl, rfl, rfl⟩

theorem report (lines : List Log.Line) : Keeps (report lines : Step σ Unit) :=
  fun _ => .report lines ⟨rfl, rfl, rfl⟩

variable (coordinator : Coordinator σ)

theorem prepareOnce (known : Option String) (title : String) :
    Keeps (coordinator.prepareOnce known title) := by
  rw [Coordinator.prepareOnce_eq]
  refine bind ?_ fun found => bind ?_ fun made => ?_
  · rw [Coordinator.findKnown]
    split
    · refine bind (bind (attempt (call _)) fun result => ?_) fun found => pure _
      split
      · exact pure _
      · split
        · exact bind (report _) fun _ => pure _
        · exact throw _
    · exact pure _
  · cases found with
    | some found => exact pure _
    | none =>
        refine bind (call _) fun document => ?_
        split
        · exact pure _
        · exact throw _
  · dsimp only
    rw [Coordinator.clear]
    split
    · exact bind (report _) fun _ => bind (call _) fun _ => pure _
    · exact pure _

theorem prepare (known : Option String) (title : String) :
    Keeps (coordinator.prepare known title) := by
  refine tryCatch (prepareOnce coordinator known title) fun failure => ?_
  split
  · refine bind (report _) fun _ => bind ?_ fun _ => prepareOnce coordinator known title
    exact bind (call _) fun _ => bind (call _) fun _ => call _
  · exact throw _

end Step.Keeps

end Sync

end DocBinder
