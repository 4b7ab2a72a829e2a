import DocBinder.Docs.Service
import DocBinder.Proofs.Sync.Contract

/-!
# How the service answers

The service keeps the contract that runs rely on. A call fails just when a fault is injected for
it, provided that its document exists and its batch fits; which call fails with what is a matter of
the planned faults and the counts alone, never of the bodies.
-/

namespace DocBinder.Docs

/-- A call of the service. -/
inductive Attempt where
  | fetch (documentId : String)
  | create (title : String)
  | update (documentId : String) (requests : List Request)
  | reset
  | clearTokens
  | authenticate
deriving Repr, Inhabited

namespace Service

/-- The failure of a batch that is planned to be refused. -/
def refusal : Failure :=
  .of (.accessFailed "Google Docs API failure during batch_update: rejected")

/-- The fault that is injected for a call. -/
def injected? (service : Service) : Attempt → Option Failure
  | .fetch _ => service.faults.fetch.lookup service.counts.fetch
  | .create _ => service.faults.create.lookup service.counts.create
  | .update _ requests =>
      (service.faults.update.lookup service.counts.update).or
        (if requests.any (refuses service.faults) then some refusal else none)
  | .authenticate => service.faults.authenticate
  | .reset | .clearTokens => none

/-- The body of a document. -/
def body? (service : Service) (documentId : String) : Option Buffer :=
  (service.find? documentId).map (·.body)

variable {service : Service} {documentId : String}

theorem id_of_find? {document : StoredDocument}
    (found : service.find? documentId = some document) : document.id = documentId := by
  have named := List.find?_some found
  exact beq_iff_eq.mp named

theorem body?_setBody {old body : Buffer} (there : service.body? documentId = some old) :
    (service.setBody documentId body).body? =
      Function.update service.body? documentId (some body) := by
  funext other
  have found : (service.setBody documentId body).find? other =
      (service.find? other).map fun document =>
        if document.id == documentId then { document with body := body } else document := by
    rw [find?, setBody, List.find?_map]
    congr 2
    funext document
    simp only [Function.comp_apply]
    split <;> rfl
  rw [body?, found, Option.map_map]
  by_cases same : other = documentId
  · subst same
    rw [Function.update_self]
    rcases Option.map_eq_some_iff.mp there with ⟨document, isFound, _⟩
    rw [isFound, Option.map_some, Function.comp_apply, if_pos (by
      rw [id_of_find? isFound, beq_self_eq_true])]
  · rw [Function.update_of_ne same, body?]
    cases isFound : service.find? other with
    | none => rfl
    | some document =>
        rw [Option.map_some, Option.map_some, Function.comp_apply, if_neg]
        rw [id_of_find? isFound, beq_iff_eq]
        exact same

/-- A new document stands beside the others. -/
theorem body?_of_append {old : Service} {title : String} {body : Buffer}
    (documents : service.documents = old.documents.filter (·.id != documentId) ++
      [⟨documentId, title, body⟩]) :
    service.body? = Function.update old.body? documentId (some body) := by
  funext other
  have found : service.find? other = ((old.documents.find? fun document =>
      document.id != documentId && document.id == other).or
        (if documentId == other then some ⟨documentId, title, body⟩ else none)) := by
    rw [find?, documents, List.find?_append, List.find?_filter, List.find?_singleton]
    simp only [Bool.decide_and, Bool.decide_eq_true]
  rw [body?, found]
  by_cases isNew : other = documentId
  · subst isNew
    have gone : (old.documents.find? fun document =>
        document.id != other && document.id == other) = none := by
      rw [List.find?_eq_none]
      intro document _
      cases decided : document.id == other <;> simp [bne, decided]
    rw [gone, Option.none_or, if_pos (beq_self_eq_true other), Function.update_self, Option.map_some]
  · have stays : (fun document : StoredDocument =>
        document.id != documentId && document.id == other) =
        fun document => document.id == other := by
      funext document
      cases decided : document.id == other
      · rw [Bool.and_false]
      · rw [beq_iff_eq.mp decided, bne, beq_eq_false_iff_ne.mpr isNew]
        rfl
    have differs : ¬ (documentId == other) = true := by
      rw [beq_iff_eq]
      exact fun same => isNew same.symm
    rw [stays, if_neg differs, Option.or_none, Function.update_of_ne isNew]
    rfl

/-! ## Calls -/

theorem meets_planned {faults : List (Nat × Failure)} {number : Nat}
    {returns : Unit → Service → Prop} {fails : Failure → Service → Prop}
    (fault : ∀ failure, faults.lookup number = some failure → fails failure service)
    (fine : faults.lookup number = none → returns () service) :
    Meets (planned faults number) service returns fails := by
  rw [planned]
  split
  · rename_i failure found
    exact .throw _ (fault failure found)
  · rename_i found
    exact .pure _ (fine found)

theorem meets_require {body : Buffer} (there : service.body? documentId = some body)
    {returns : StoredDocument → Service → Prop} {fails : Failure → Service → Prop}
    (found : ∀ title, returns ⟨documentId, title, body⟩ service) :
    Meets (require documentId) service returns fails := by
  refine .bind (.get ?_)
  rcases Option.map_eq_some_iff.mp there with ⟨document, isFound, rfl⟩
  have named := id_of_find? isFound
  rw [isFound]
  subst named
  exact .pure _ (found document.title)

/-- The counts with one more call. -/
def count (counts : CallCounts) : Attempt → CallCounts
  | .fetch _ => { counts with fetch := counts.fetch + 1 }
  | .create _ => { counts with create := counts.create + 1 }
  | .update _ _ => { counts with update := counts.update + 1 }
  | .reset => { counts with reset := counts.reset + 1 }
  | .clearTokens => { counts with clearTokens := counts.clearTokens + 1 }
  | .authenticate => { counts with authenticate := counts.authenticate + 1 }

/-- A call was counted, and answered as its fault says. -/
structure Answered (before : Service) (attempt : Attempt) (failure : Option Failure)
    (after : Service) : Prop where
  faults : after.faults = before.faults
  injected : failure = before.injected? attempt
  counted : after.counts = count before.counts attempt

theorem meets_fetch {body : Buffer} (there : service.body? documentId = some body) :
    Meets (fetch documentId) service
      (fun value reached => service.Answered (.fetch documentId) none reached ∧
        reached.body? = service.body? ∧ ∃ title, value = body.toDocument documentId title)
      (fun failure reached => service.Answered (.fetch documentId) (some failure) reached ∧
        reached.body? = service.body?) := by
  refine .bind (.get (.bind (.set _ (.bind (meets_planned ?_ ?_)))))
  · intro failure planned
    exact ⟨⟨rfl, planned.symm, rfl⟩, rfl⟩
  · intro planned
    have stillThere : body? { service with
        counts := { service.counts with fetch := service.counts.fetch + 1 } } documentId =
      some body := there
    refine .bind (meets_require stillThere fun title => ?_)
    exact .pure _ ⟨⟨rfl, planned.symm, rfl⟩, rfl, title, rfl⟩

theorem meets_create (title : String) :
    Meets (create title) service
      (fun value reached => service.Answered (.create title) none reached ∧
        ∃ documentId title,
          reached.body? = Function.update service.body? documentId (some (Buffer.ofText [])) ∧
          value = (Buffer.ofText []).toDocument documentId title)
      (fun failure reached => service.Answered (.create title) (some failure) reached ∧
        reached.body? = service.body?) := by
  refine .bind (.get (.bind (.set _ (.bind (meets_planned ?_ ?_)))))
  · intro failure planned
    exact ⟨⟨rfl, planned.symm, rfl⟩, rfl⟩
  · intro planned
    refine .bind (.modify _ (.pure _ ⟨⟨rfl, planned.symm, rfl⟩, _, title, ?_, rfl⟩))
    exact body?_of_append rfl

theorem meets_update {body next : Buffer} {requests : List Request} {effects : Effects}
    (there : service.body? documentId = some body) (nonempty : requests ≠ [])
    (applies : applyBatch body requests = .ok (next, effects)) :
    Meets (update documentId requests) service
      (fun _ reached => service.Answered (.update documentId requests) none reached ∧
        reached.body? = Function.update service.body? documentId (some next))
      (fun failure reached =>
        service.Answered (.update documentId requests) (some failure) reached ∧
        reached.body? = service.body?) := by
  rw [update, if_neg (by simpa using nonempty)]
  refine .bind (.get (.bind (.set _ (.bind (meets_planned ?_ ?_)))))
  · intro failure planned
    exact ⟨⟨rfl, by rw [injected?, planned]; rfl, rfl⟩, rfl⟩
  · intro planned
    dsimp only
    split
    · rename_i refused
      exact .throw _ ⟨⟨rfl, by rw [injected?, planned, Option.none_or, if_pos refused]; rfl, rfl⟩, rfl⟩
    · rename_i accepted
      have stillThere : body? { service with
          counts := { service.counts with update := service.counts.update + 1 } } documentId =
        some body := there
      refine .bind (meets_require stillThere fun title => ?_)
      dsimp only
      rw [applies]
      refine .modify _ ⟨⟨rfl, ?_, rfl⟩, body?_setBody there⟩
      rw [injected?, planned, Option.none_or, if_neg accepted]

/-- A call that asks for new access, as it is noted. -/
def renewal (operation : Call Service Unit) (attempt : Attempt) : Prop :=
  ∀ service : Service, Meets operation service
    (fun _ reached => service.Answered attempt none reached ∧ reached.body? = service.body?)
    (fun failure reached => service.Answered attempt (some failure) reached ∧
      reached.body? = service.body?)

theorem renewal_reset : renewal remote.reset .reset :=
  fun _ => .modify _ ⟨⟨rfl, rfl, rfl⟩, rfl⟩

theorem renewal_clearTokens : renewal remote.clearTokens .clearTokens :=
  fun _ => .modify _ ⟨⟨rfl, rfl, rfl⟩, rfl⟩

theorem renewal_authenticate : renewal remote.authenticate .authenticate := by
  intro service
  refine .bind (.modify _ (.bind (.get ?_)))
  dsimp only
  split
  · rename_i failure planned
    exact .throw _ ⟨⟨rfl, planned.symm, rfl⟩, rfl⟩
  · rename_i planned
    exact .pure _ ⟨⟨rfl, planned.symm, rfl⟩, rfl⟩

/-! ## Without faults -/

theorem injected?_none (quiet : service.faults = .none) (attempt : Attempt) :
    service.injected? attempt = none := by
  have accepts (requests : List Request) : requests.any (refuses Faults.none) = false := by
    rw [List.any_eq_false]
    intro request _
    cases request <;> simp [refuses, Faults.none]
  cases attempt with
  | update documentId requests =>
      rw [injected?, quiet, accepts]
      rfl
  | reset => rfl
  | clearTokens => rfl
  | _ =>
      rw [injected?, quiet]
      rfl

theorem Answered.faulty {attempt : Attempt} {failure : Failure} {reached : Service}
    (answered : service.Answered attempt (some failure) reached) : service.faults ≠ .none := by
  intro quiet
  have injected := answered.injected
  rw [injected?_none quiet] at injected
  cases injected

/-- The service keeps a contract whose conditions follow from how single calls are answered. -/
def contractOf (Leads : Service → Service → Prop) (Troubled : Failure → Service → Service → Prop)
    (refl : ∀ service, Leads service service)
    (trans : ∀ {first second third}, Leads first second → Leads second third → Leads first third)
    (before : ∀ {failure first second third}, Leads first second →
      Troubled failure second third → Troubled failure first third)
    (after : ∀ {failure first second third}, Troubled failure first second →
      Leads second third → Troubled failure first third)
    (leads : ∀ {first attempt failure second}, Answered first attempt failure second →
      Leads first second)
    (troubled : ∀ {first attempt failure second}, Answered first attempt (some failure) second →
      Troubled failure first second) : remote.Contract where
  body? := body?
  Leads := Leads
  Troubled := Troubled
  refl := refl
  trans := trans
  before := before
  after := after
  fetches there := (meets_fetch there).mono
    (fun _ _ holds => ⟨leads holds.1, holds.2⟩)
    (fun _ _ holds => ⟨leads holds.1, holds.2, troubled holds.1⟩)
  updates there nonempty applies := (meets_update there nonempty applies).mono
    (fun _ _ holds => ⟨leads holds.1, holds.2⟩)
    (fun _ _ holds => ⟨leads holds.1, holds.2, troubled holds.1⟩)
  creates _ title := (meets_create title).mono
    (fun _ _ holds => ⟨leads holds.1, holds.2⟩)
    (fun _ _ holds => ⟨leads holds.1, holds.2, troubled holds.1⟩)
  renews operation isOperation state := by
    have renews : ∃ attempt, renewal operation attempt := by
      simp only [List.mem_cons, List.not_mem_nil, or_false] at isOperation
      rcases isOperation with rfl | rfl | rfl
      · exact ⟨_, renewal_clearTokens⟩
      · exact ⟨_, renewal_authenticate⟩
      · exact ⟨_, renewal_reset⟩
    rcases renews with ⟨attempt, renewal⟩
    exact (renewal state).mono (fun _ _ holds => ⟨leads holds.1, holds.2⟩)
      (fun _ _ holds => ⟨leads holds.1, holds.2, troubled holds.1⟩)

/-- The contract of the service, where calls fail only if faults are planned. -/
def contract : remote.Contract :=
  contractOf (fun before after => after.faults = before.faults)
    (fun _ before _ => before.faults ≠ .none) (fun _ => rfl)
    (fun first second => second.trans first) (fun leads troubled => leads ▸ troubled)
    (fun troubled _ => troubled) Answered.faults Answered.faulty

/-! ## Planned calls -/

/-- The same faults are planned, and calls of the numbers between were made. -/
structure Advances (before after : Service) : Prop where
  faults : after.faults = before.faults
  fetch : before.counts.fetch ≤ after.counts.fetch
  update : before.counts.update ≤ after.counts.update

/-- Faults are planned for fetches and batches of certain numbers only. -/
structure Numbered (faults : Faults) : Prop where
  create : faults.create = []
  texts : faults.texts = []
  kinds : faults.kinds = []
  authenticate : faults.authenticate = none

/-- Between two states, a call was made that was planned to fail, or faults are planned for other
things than numbers of calls. -/
inductive Planned (failure : Failure) (before after : Service) : Prop where
  | fetch {number : Nat} (notBefore : before.counts.fetch ≤ number)
      (below : number < after.counts.fetch)
      (planned : before.faults.fetch.lookup number = some failure)
  | update {number : Nat} (notBefore : before.counts.update ≤ number)
      (below : number < after.counts.update)
      (planned : before.faults.update.lookup number = some failure)
  | other (unnumbered : ¬ Numbered before.faults)

theorem Advances.refl (service : Service) : Advances service service :=
  ⟨rfl, Nat.le_refl _, Nat.le_refl _⟩

variable {first second third : Service} {failure : Failure}

theorem Advances.trans (advances : Advances first second) (further : Advances second third) :
    Advances first third :=
  ⟨further.faults.trans advances.faults, Nat.le_trans advances.fetch further.fetch,
    Nat.le_trans advances.update further.update⟩

theorem Planned.before (advances : Advances first second) (planned : Planned failure second third) :
    Planned failure first third := by
  cases planned with
  | fetch notBefore below planned =>
      rw [advances.faults] at planned
      exact .fetch (Nat.le_trans advances.fetch notBefore) below planned
  | update notBefore below planned =>
      rw [advances.faults] at planned
      exact .update (Nat.le_trans advances.update notBefore) below planned
  | other unnumbered => exact .other (advances.faults ▸ unnumbered)

theorem Planned.after (planned : Planned failure first second) (advances : Advances second third) :
    Planned failure first third := by
  cases planned with
  | fetch notBefore below planned =>
      exact .fetch notBefore (Nat.lt_of_lt_of_le below advances.fetch) planned
  | update notBefore below planned =>
      exact .update notBefore (Nat.lt_of_lt_of_le below advances.update) planned
  | other unnumbered => exact .other unnumbered

theorem Answered.advances {attempt : Attempt} {failure : Option Failure}
    (answered : first.Answered attempt failure second) : Advances first second := by
  refine ⟨answered.faults, ?_, ?_⟩ <;>
  · rw [answered.counted]
    cases attempt <;> simp [count]

theorem Answered.planned {attempt : Attempt}
    (answered : first.Answered attempt (some failure) second) : Planned failure first second := by
  by_cases numbered : Numbered first.faults
  · have injected := answered.injected
    have counted := answered.counted
    have accepts (requests : List Request) :
        requests.any (refuses first.faults) = false := by
      rw [List.any_eq_false]
      intro request _
      cases request <;> simp [refuses, numbered.texts, numbered.kinds]
    cases attempt with
    | fetch => exact .fetch (Nat.le_refl _) (by simp [counted, count]) injected.symm
    | update documentId requests =>
        refine .update (Nat.le_refl _) (by simp [counted, count]) ?_
        rw [injected?, accepts] at injected
        simpa using injected.symm
    | create => simp [injected?, numbered.create] at injected
    | authenticate => simp [injected?, numbered.authenticate] at injected
    | reset => simp [injected?] at injected
    | clearTokens => simp [injected?] at injected
  · exact .other numbered

/-- The contract of the service, where the calls that fail are those whose numbers are planned for. -/
def counted : remote.Contract :=
  contractOf Advances Planned Advances.refl Advances.trans Planned.before Planned.after
    Answered.advances Answered.planned

end Service

end DocBinder.Docs
