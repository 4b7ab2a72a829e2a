import DocBinder.Access.Client
import DocBinder.Proofs.Sync.Documents

/-!
# The failures that leave the client

An exchange can fail in any way; what leaves the client is diagnosed. A diagnosis is a failure of the
remote service, and those that may pass by themselves are tried again until no try is left. There is
one failure that has no diagnosis: a refusal of which the service speaks in something other than a
text, since only a text can be freed of secrets. A new document has to be described by a mapping
besides. What leaves the client otherwise is typed and final, and never ends more than the work on one
document, unless the credentials are at fault.
-/

namespace DocBinder

/-- Whether a failure is one of the remote service that does not pass by itself. -/
def Failure.isFinal (failure : Failure) : Bool :=
  failure.cause.isDocs && !failure.cause.isTransient

/-- What holds of each way a step can end holds of its result. -/
theorem Meets.result {σ α : Type} {step : ExceptT Failure (StateM σ) α} {state : σ}
    (holds : Except Failure α → Prop)
    (meets : Meets step state (fun value _ => holds (.ok value)) fun failure _ =>
      holds (.error failure)) : holds (step.run state).1 := by
  rw [Meets] at meets
  split at meets <;> rename_i runs
  · rw [runs]
    exact meets
  · rw [runs]
    exact meets

/-! ## Runs -/

namespace Sync

theorem Passes.paths_of_recorded {σ : Type} {coordinator : Coordinator σ} {documentId : String}
    {documents : List SourceDocument} {session last : Session σ} {outcomes : List Outcome}
    (passes : Passes coordinator documentId (Recorded coordinator documentId) documents session
      outcomes last) : outcomes.map (·.path) = documents.map (·.path) := by
  induction passes with
  | nil session => rfl
  | cons records recorded following step =>
      rw [List.map_cons, List.map_cons, step, recorded.path]

/-- A run gives each document an outcome. A final failure of the remote does not end it, unless the
credentials are at fault. -/
theorem Coordinator.meets_writeAll_confined {σ : Type} (coordinator : Coordinator σ)
    (documents : List SourceDocument) (documentId : String) (session : Session σ) :
    Meets (coordinator.writeAll documents documentId) session
      (fun run _ => run.outcomes.map (·.path) = documents.map (·.path))
      (fun failure _ => failure.isFinal = true → failure.cause.isInvalidCredentials = true) := by
  let confined (failure : Failure) : Prop :=
    failure.isFinal = true → failure.cause.isInvalidCredentials = true
  have step (document : SourceDocument) (session : Session σ) (_ : True) :
      Meets (coordinator.recordDocument document documentId) session
        (fun outcome reached =>
          True ∧ Recorded coordinator documentId document session outcome reached)
        (fun failure _ => confined failure) := by
    refine (coordinator.meets_recordDocument_recorded document documentId session).mono
      (fun _ _ recorded => ⟨trivial, recorded⟩) ?_
    rintro failure _ ⟨_, aborts⟩ final
    rw [Failure.isFinal, Bool.and_eq_true] at final
    simpa [final.1] using aborts
  refine (Coordinator.meets_writeFrom step trivial ⟨some documentId, []⟩ documents).mono ?_ ?_
  · rintro run reached ⟨outcomes, last, log, passes, -, -, rfl⟩
    exact passes.paths_of_recorded
  · rintro failure reached ⟨front, document, rest, outcomes, middle, -, -, -, -, aborts⟩
    exact aborts

end Sync

namespace Access

open Docs

/-! ## The diagnosis -/

/-- What the service says about a failure in the answer that the failure was raised for. -/
def spoken? (failure : Failure) : Option Value :=
  match failure.cause with
  | .foreign foreign => foreign.response.bind serviceMessage?
  | _ => none

/-- A failure that has no diagnosis: neither its kind nor its status is known, and the service speaks
of it in something other than a text. -/
structure Untold (failure : Failure) (operation : String) (said : Value) : Prop where
  foreign : failure.cause.isDocs = false
  unknown : knownCause? failure operation = none
  spoken : spoken? failure = some said
  notText : said.string? = none

/-- What comes of something that is no text, by the name of its type, where a text is needed. -/
def noText (typeName : String) : Failure :=
  .foreign "TypeError" s!"expected string or bytes-like object, got '{typeName}'"

theorem isDocs_of_knownCause? {failure : Failure} {operation : String} {cause : Cause}
    (known : knownCause? failure operation = some cause) : cause.isDocs = true := by
  simp only [knownCause?] at known
  repeat' split at known
  all_goals cases known
  all_goals rfl

theorem Untold.diagnose {failure : Failure} {operation : String} {said : Value}
    (untold : Untold failure operation said) :
    diagnose failure operation = .error (noText said.typeName) := by
  have details : detail failure = said := by
    change (spoken? failure).getD _ = said
    rw [untold.spoken, Option.getD_some]
  unfold Access.diagnose
  rw [untold.foreign, untold.unknown, details]
  have notText := untold.notText
  cases said <;> first | rfl | cases notText

/-- Every other failure has a diagnosis, which is a failure of the remote service. -/
theorem exists_diagnose {failure : Failure} {operation : String}
    (told : ∀ said, ¬Untold failure operation said) :
    ∃ diagnosis, diagnose failure operation = .ok diagnosis ∧
      diagnosis.failure.cause.isDocs = true := by
  unfold diagnose
  split
  · rename_i typed
    exact ⟨_, rfl, typed⟩
  · rename_i foreign
    split
    · rename_i cause known
      exact ⟨_, rfl, isDocs_of_knownCause? known⟩
    · rename_i unknown
      split
      · exact ⟨_, rfl, rfl⟩
      · rename_i notText
        -- A detail that is no text is what the service said.
        cases spoken : spoken? failure with
        | none =>
            have : detail failure = .str failure.message := by
              change (spoken? failure).getD _ = _
              rw [spoken, Option.getD_none]
            exact (notText _ this).elim
        | some found =>
            have : detail failure = found := by
              change (spoken? failure).getD _ = _
              rw [spoken, Option.getD_some]
            refine absurd ⟨by simpa using foreign, unknown, spoken, ?_⟩ (told found)
            cases found <;> first | rfl | exact (notText _ this).elim

theorem sameKey_int (first second : Int) :
    (Value.int first).sameKey (.int second) = decide (first = second) := by
  have counts (value : Int) : (if value < 0 then -(value.natAbs : Int) else value.natAbs) = value := by
    split <;> omega
  have below (left right : Int) : Decimal.Binary.lt (.ofInt left) (.ofInt right) = decide (left < right) := by
    simp only [Decimal.Binary.lt, Decimal.Binary.ofInt, min_self, Int.sub_self, Int.toNat_zero, Nat.pow_eq,
      Nat.pow_zero, Nat.mul_one, decide_eq_true_eq, counts]
  simp only [Value.sameKey, Value.number?]
  change (!Decimal.Binary.lt (.ofInt first) (.ofInt second) &&
    !Decimal.Binary.lt (.ofInt second) (.ofInt first)) = _
  rw [below, below, Bool.eq_iff_iff]
  simp only [Bool.and_eq_true, Bool.not_eq_true', decide_eq_true_eq, decide_eq_false_iff_not]
  omega

theorem exists_of_refusal? {response : Response} {address : String} {failure : Failure}
    (refused : refusal? response address = some failure) :
    response.status < 600 ∧
      ∃ note, failure = .of (.foreign ⟨"HTTPError", note, some response⟩) := by
  simp only [refusal?] at refused
  split at refused
  · rename_i client
    simp only [Bool.and_eq_true, decide_eq_true_eq] at client
    exact ⟨by omega, _, (Option.some.inj refused).symm⟩
  · split at refused
    · rename_i server
      simp only [Bool.and_eq_true, decide_eq_true_eq] at server
      exact ⟨server.2, _, (Option.some.inj refused).symm⟩
    · cases refused

/-- Nothing is known of a refusal just when its status is one of the client's faults other than those
that tell what is meant. -/
theorem knownCause?_eq_none_iff {response : Response} {note operation : String}
    (within : response.status < 600) :
    knownCause? (.of (.foreign ⟨"HTTPError", note, some response⟩)) operation = none ↔
      response.status < 500 ∧ response.status ∉ [401, 403, 404, 429] := by
  generalize isRaised : Failure.of (.foreign ⟨"HTTPError", note, some response⟩) = raised
  have status : statusOf raised = some (.int response.status) := by rw [← isRaised]; rfl
  have network : isNetworkFailure raised.cause = false := by rw [← isRaised]; rfl
  have renewal : isRenewalFailure raised.cause = false := by rw [← isRaised]; rfl
  simp only [knownCause?, network, renewal, status, statusWithin, Option.any_some, sameKey_int,
    Option.bind_some, Value.int?, Bool.false_eq_true, if_false, Bool.or_eq_true,
    decide_eq_true_eq, Bool.and_eq_true, List.mem_cons, List.not_mem_nil, or_false]
  split_ifs <;> simp only [true_iff, false_iff] <;> omega

/-- A refusal has no diagnosis just when nothing is known of its status and its message is not a
text. -/
theorem untold_iff_of_refusal? {response : Response} {address operation : String} {failure : Failure}
    {said : Value} (refused : refusal? response address = some failure) :
    Untold failure operation said ↔
      response.status < 500 ∧ response.status ∉ [401, 403, 404, 429] ∧
        serviceMessage? response = some said ∧ said.string? = none := by
  rcases exists_of_refusal? refused with ⟨within, note, rfl⟩
  have unknown := @knownCause?_eq_none_iff response note operation within
  constructor
  · intro untold
    have status := unknown.mp untold.unknown
    exact ⟨status.1, status.2, untold.spoken, untold.notText⟩
  · rintro ⟨below, others, message, notText⟩
    exact ⟨rfl, unknown.mpr ⟨below, others⟩, message, notText⟩

/-! ## Tries -/

section Retry

variable {σ α : Type} {operation : StateM σ (Except Failure α)} {wait : Nat → StateM σ Unit}
  {report : Log.Line → StateM σ Unit} {tried : Nat} {state reached : σ}

theorem run_retryFrom_ok {result : α} (runs : operation.run state = (.ok result, reached))
    (left : Nat) :
    (retryFrom operation wait report tried left).run state = (.ok result, reached) := by
  cases left <;>
  · rw [retryFrom, StateT.run_bind, runs]
    rfl

theorem run_retryFrom_stays {failure : Failure}
    (runs : operation.run state = (.error failure, reached)) (stays : mayPass failure = false)
    (left : Nat) :
    (retryFrom operation wait report tried left).run state = (.error failure, reached) := by
  cases left <;>
  · rw [retryFrom, StateT.run_bind, runs]
    change StateT.run (ite (mayPass failure = true) _ _) reached = _
    rw [stays]
    rfl

theorem run_retryFrom_zero {failure : Failure}
    (runs : operation.run state = (.error failure, reached)) (passes : mayPass failure = true) :
    (retryFrom operation wait report tried 0).run state =
      (.error (.of (.accessFailed retriesExhausted)), ((report (gaveUp failure)).run reached).2) := by
  rw [retryFrom, StateT.run_bind, runs]
  change StateT.run (ite (mayPass failure = true) _ _) reached = _
  rw [passes]
  rfl

theorem run_retryFrom_succ {failure : Failure}
    (runs : operation.run state = (.error failure, reached)) (passes : mayPass failure = true)
    (left : Nat) :
    (retryFrom operation wait report tried (left + 1)).run state =
      (retryFrom operation wait report (tried + 1) left).run
        ((do report (tryingAgain failure tried); wait (Nat.pow 2 tried)).run reached).2 := by
  rw [retryFrom, StateT.run_bind, runs]
  change StateT.run (ite (mayPass failure = true) _ _) reached = _
  rw [passes]
  rfl

end Retry

/-- What an operation comes to, given what an exchange of it came to: a failure leaves it as one of a
kind, unless it has no diagnosis. -/
inductive Told (kind : Failure → Bool) (operation : String) :
    Except Failure Value → Except Failure Value → Prop
  | returns (value : Value) : Told kind operation (.ok value) (.ok value)
  | typed {raised failure : Failure} (told : ∀ said, ¬Untold raised operation said)
      (typed : kind failure = true) : Told kind operation (.error raised) (.error failure)
  | untold {raised : Failure} {said : Value} (untold : Untold raised operation said) :
      Told kind operation (.error raised) (.error (noText said.typeName))

theorem mayPass_noText (said : Value) : mayPass (noText said.typeName) = false := by
  have all : ∀ typeName ∈ ["NoneType", "bool", "int", "float", "str", "list", "dict", "date",
      "datetime", "bytes", "set"], mayPass (noText typeName) = false := by
    decide +kernel
  refine all _ ?_
  cases said <;> simp [Value.typeName]

theorem isFinal_of_mayPass {failure : Failure} (typed : failure.cause.isDocs = true)
    (stays : mayPass failure = false) : failure.isFinal = true := by
  rw [mayPass] at stays
  split at stays
  · cases stays
  · rename_i lasting
    rw [Failure.isFinal, typed, Bool.eq_false_iff.mpr lasting]
    rfl

section Told

variable {operation : String} {raised : Except Failure Value} {failure : Failure}

/-- A failure that does not pass by itself is final. -/
theorem Told.stays (told : Told (·.cause.isDocs) operation raised (.error failure))
    (stays : mayPass failure = false) :
    Told Failure.isFinal operation raised (.error failure) := by
  cases told with
  | typed isTold typed => exact .typed isTold (isFinal_of_mayPass typed stays)
  | untold untold => exact .untold untold

/-- A failure that may pass by itself has a diagnosis. -/
theorem Told.passes (told : Told (·.cause.isDocs) operation raised (.error failure))
    (passes : mayPass failure = true) :
    Told Failure.isFinal operation raised (.error (.of (.accessFailed retriesExhausted))) := by
  cases told with
  | typed isTold _ => exact .typed isTold rfl
  | untold _ => exact absurd passes (by rw [mayPass_noText]; exact Bool.false_ne_true)

end Told

namespace Client

variable {ω : Type} (client : Client ω) (exchange : Exchange) (operation : String)

/-- A try returns what the exchange gives, and fails with the diagnosis of its failure. -/
theorem told_attempt (connection : Connection ω) :
    Told (·.cause.isDocs) operation ((client.exchange exchange).run connection).1
      ((client.attempt exchange operation).run.run connection).1 := by
  change Told _ _ _ ((client.attempt exchange operation).run connection).1
  rw [attempt, run_tryCatch]
  rcases (client.exchange exchange).run connection with ⟨raised | value, reached⟩
  · by_cases isTold : ∀ said, ¬Untold raised operation said
    · obtain ⟨diagnosis, diagnosed, typed⟩ := exists_diagnose isTold
      simp only [diagnosed]
      exact .typed isTold typed
    · obtain ⟨said, untold⟩ := not_forall_not.mp isTold
      simp only [untold.diagnose]
      exact .untold untold
  · exact .returns value

/-- What is done before another try: a report and a wait. -/
def again (failure : Failure) (tried : Nat) : StateM (Connection ω) Unit := do
  report [tryingAgain failure tried]
  client.pause (Nat.pow 2 tried)

/-- With some tries made and some left, the exchange of the last try comes to a result: each try before
it failed for a reason that may pass, and it is the last one because no other is left or because it
did not fail so. -/
inductive Ended : (tried left : Nat) → Connection ω → Except Failure Value → Prop
  | last {tried left : Nat} {connection : Connection ω} {raised : Except Failure Value}
      (comes : ((client.exchange exchange).run connection).1 = raised)
      (stops : left = 0 ∨ ∀ failure,
        ((client.attempt exchange operation).run.run connection).1 = .error failure →
          mayPass failure = false) :
      Ended tried left connection raised
  | again {tried left : Nat} {connection reached : Connection ω} {failure : Failure}
      {raised : Except Failure Value}
      (fails : (client.attempt exchange operation).run.run connection = (.error failure, reached))
      (passes : mayPass failure = true)
      (ended : Ended (tried + 1) left ((client.again failure tried).run reached).2 raised) :
      Ended tried (left + 1) connection raised

/-- The tries of an operation, of which some were made and some are left. -/
abbrev tries (tried left : Nat) : StateM (Connection ω) (Except Failure Value) :=
  retryFrom (client.attempt exchange operation).run client.pause (fun line => report [line]) tried
    left

/-- The tries come to what the exchange of the last one comes to, told as a final failure. -/
theorem exists_ended (left tried : Nat) (connection : Connection ω) :
    ∃ raised, client.Ended exchange operation tried left connection raised ∧
      Told Failure.isFinal operation raised
        ((client.tries exchange operation tried left).run connection).1 := by
  have told := client.told_attempt exchange operation connection
  generalize comes : ((client.exchange exchange).run connection).1 = raised at told
  rcases ran : (client.attempt exchange operation).run.run connection with
    ⟨failure | value, reached⟩
  · replace told : Told (·.cause.isDocs) operation raised (.error failure) := by rwa [ran] at told
    cases passes : mayPass failure with
    | false =>
        refine ⟨raised, .last comes (.inr fun other fails => ?_), ?_⟩
        · rw [ran] at fails
          cases fails
          exact passes
        · rw [tries, run_retryFrom_stays ran passes]
          exact told.stays passes
    | true =>
        cases left with
        | zero =>
            refine ⟨raised, .last comes (.inl rfl), ?_⟩
            rw [tries, run_retryFrom_zero ran passes]
            exact told.passes passes
        | succ left =>
            rw [tries, run_retryFrom_succ ran passes]
            obtain ⟨raised, ended, settled⟩ :=
              exists_ended left (tried + 1) ((client.again failure tried).run reached).2
            exact ⟨raised, .again ran passes ended, settled⟩
  · replace told : Told (·.cause.isDocs) operation raised (.ok value) := by rwa [ran] at told
    refine ⟨raised, .last comes (.inr fun other fails => ?_), ?_⟩
    · rw [ran] at fails
      cases fails
    · rw [tries, run_retryFrom_ok ran]
      cases told
      exact .returns value

/-! ## Operations -/

/-- What an operation of a client comes to is what the exchange of its last try comes to, and a failure
of that exchange leaves the client as a final one, unless it has no diagnosis. -/
def Settles (client : Client ω) (exchange : Exchange) (operation : String)
    (connection : Connection ω) (result : Except Failure Value) : Prop :=
  ∃ raised, client.Ended exchange operation 0 maxRetries connection raised ∧
    Told Failure.isFinal operation raised result

theorem settles_call (client : Client ω) (method : Method) (address operation : String)
    (payload : Value) (connection : Connection ω) :
    client.Settles ⟨method, address, payload, client.timeout⟩ operation connection
      ((client.call method address operation payload).run connection).1 :=
  client.exists_ended _ operation maxRetries 0 connection

/-- What making a document comes to, given what the exchange of its last try came to: only a mapping
can hold the identifier of a document. -/
inductive Made (operation : String) : Except Failure Value → Except Failure Value → Prop
  | returns (entries : List (Value × Value)) : Made operation (.ok (.map entries)) (.ok (.map entries))
  | noMapping {value : Value} (other : ∀ entries, value ≠ .map entries) :
      Made operation (.ok value)
        (.error (.foreign "AttributeError" s!"'{value.typeName}' object has no attribute 'get'"))
  | fails {raised failure : Failure}
      (told : Told Failure.isFinal operation (.error raised) (.error failure)) :
      Made operation (.error raised) (.error failure)

variable (client : Client ω) (connection : Connection ω)

theorem settles_fetch {documentId : String} (valid : checkDocumentId documentId = .ok ()) :
    client.Settles ⟨.get, s!"{serviceAddress}/{documentId}", .null, client.timeout⟩
      s!"get_document({documentId})" connection ((client.fetch documentId).run connection).1 := by
  rw [fetch, valid]
  exact client.settles_call .get _ _ .null connection

theorem run_update_nil {documentId : String} (valid : checkDocumentId documentId = .ok ()) :
    (client.update documentId []).run connection =
      (.ok (.record [("documentId", .str documentId), ("replies", .list [])]), connection) := by
  rw [update, valid]
  rfl

/-- A connection whose log tells of a batch to be sent. -/
def announced (documentId : String) (requests : List Value) : Connection ω :=
  ((report [⟨.debug, .remote,
    s!"Submitting batch of {requests.length} request(s) to {documentId}"⟩]).run connection).2

theorem settles_update {documentId : String} (valid : checkDocumentId documentId = .ok ())
    {requests : List Value} (some : requests ≠ []) :
    client.Settles ⟨.post, s!"{serviceAddress}/{documentId}:batchUpdate",
        .record [("requests", .list requests)], client.timeout⟩ s!"batch_update({documentId})"
      (announced connection documentId requests)
      ((client.update documentId requests).run connection).1 := by
  cases requests with
  | nil => exact absurd rfl some
  | cons request rest =>
      rw [update, valid]
      exact client.settles_call .post _ _ _ (announced connection documentId (request :: rest))

/-- Making a document returns the mapping that the service describes it by. -/
theorem exists_made (title : String) :
    ∃ raised, client.Ended ⟨.post, serviceAddress, .record [("title", .str title)], client.timeout⟩
        s!"create_document({title})" 0 maxRetries connection raised ∧
      Made s!"create_document({title})" raised ((client.create title).run connection).1 := by
  rcases client.settles_call .post serviceAddress s!"create_document({title})"
    (.record [("title", .str title)]) connection with ⟨raised, ended, told⟩
  refine ⟨raised, ended, ?_⟩
  rcases ran : (client.call .post serviceAddress s!"create_document({title})"
    (.record [("title", .str title)])).run connection with ⟨failure | value, reached⟩ <;>
    rw [ran] at told <;> refine Meets.result (Made s!"create_document({title})" raised) ?_
  · refine .bind (.of_run_error ran ?_)
    cases told with
    | typed isTold typed => exact .fails (.typed isTold typed)
    | untold untold => exact .fails (.untold untold)
  · cases told
    refine .bind (.of_run ran ?_)
    split
    · exact .bind (Meets.of_run rfl (.pure _ (.returns _)))
    · rename_i noMapping
      exact .throw _ (.noMapping noMapping)

end Client

/-! ## What leaves the client -/

/-- A client as the remote of a run, with what access to it is renewed by. -/
def Client.remote {ω : Type} (client : Client ω) (clearTokens authenticate : Client.Step ω Unit) :
    Remote (Connection ω) where
  fetch := client.fetch
  create := client.create
  update documentId requests := do
    let _ ← client.update documentId (requests.map (·.toValue))
  reset := client.reset
  clearTokens := clearTokens
  authenticate := authenticate

/-- Every fetch, batch and new document of a client comes to what the exchange of its last try comes
to. Whatever that exchange fails with, what leaves the client is a failure of the remote service that
does not pass by itself, unless the service speaks of a refusal in something other than a text, or
describes a new document by something other than a mapping. Such a failure never ends a run over the
client, unless the credentials are at fault. -/
theorem Client.settles_typed {ω : Type} (client : Client ω) (connection : Connection ω)
    (documentId title : String) (requests : List Value) (valid : checkDocumentId documentId = .ok ()) :
    client.Settles ⟨.get, s!"{serviceAddress}/{documentId}", .null, client.timeout⟩
        s!"get_document({documentId})" connection ((client.fetch documentId).run connection).1 ∧
      (requests ≠ [] → client.Settles ⟨.post, s!"{serviceAddress}/{documentId}:batchUpdate",
          .record [("requests", .list requests)], client.timeout⟩ s!"batch_update({documentId})"
        (announced connection documentId requests)
        ((client.update documentId requests).run connection).1) ∧
      (client.update documentId []).run connection =
        (.ok (.record [("documentId", .str documentId), ("replies", .list [])]), connection) ∧
      (∃ raised, client.Ended
          ⟨.post, serviceAddress, .record [("title", .str title)], client.timeout⟩
          s!"create_document({title})" 0 maxRetries connection raised ∧
        Made s!"create_document({title})" raised ((client.create title).run connection).1) ∧
      ∀ (clearTokens authenticate : Client.Step ω Unit) (languages : List Text)
        (setup : Placeholder.Setup) (chunkSize : Nat) (now : String)
        (documents : List Sync.SourceDocument) (session : Sync.Session (Connection ω)),
        Meets ((⟨client.remote clearTokens authenticate, languages, setup, chunkSize, now⟩ :
            Sync.Coordinator (Connection ω)).writeAll documents documentId) session
          (fun run _ => run.outcomes.map (·.path) = documents.map (·.path))
          (fun failure _ => failure.isFinal = true → failure.cause.isInvalidCredentials = true) := by
  refine ⟨client.settles_fetch connection valid, client.settles_update connection valid,
    client.run_update_nil connection valid, client.exists_made connection title, ?_⟩
  intro clearTokens authenticate languages setup chunkSize now documents session
  exact Sync.Coordinator.meets_writeAll_confined _ documents documentId session

/-! ## A service of which the answers are given -/

/-- A world in which the answers of the service are given, and that fails when there are no more. -/
def answering : World (List Response) where
  openSession := pure ()
  closeSession := pure ()
  send _ := do
    match ← get with
    | [] => throw (.foreign "RuntimeError" "script exhausted")
    | response :: rest =>
        set rest
        return response
  wait _ := pure ()

/-- A client of such a world. -/
def answered : Client (List Response) :=
  ⟨answering, .int 30⟩

/-- A refusal of which the service speaks in a number leaves the client as a failure that is not
typed. -/
theorem Client.not_settles_typed :
    ¬ ∀ (ω : Type) (client : Client ω) (connection : Connection ω) (documentId : String),
      checkDocumentId documentId = .ok () → ∀ failure reached,
        (client.fetch documentId).run connection = (.error failure, reached) →
          failure.isFinal = true := by
  intro all
  have final := all (List Response) answered
    ⟨[⟨400, "", .json (.record [("error", .record [("message", .int 5)])])⟩], false, []⟩ "doc1"
    (by rfl) (noText "int") ⟨[], true, []⟩ (by rfl)
  exact absurd final (by decide)

/-- A service that is down at first and then does not have the document. -/
theorem Client.settles_typed_notFound :
    checkDocumentId "doc1" = .ok () ∧
      answered.Settles ⟨.get, "https://docs.googleapis.com/v1/documents/doc1", .null, .int 30⟩
        "get_document(doc1)" ⟨[⟨503, "", .text ""⟩, ⟨404, "", .text ""⟩], false, []⟩
        (.error (.of (.documentNotFound "doc1"))) := by
  have valid : checkDocumentId "doc1" = .ok () := by rfl
  exact ⟨valid, (answered.settles_typed ⟨[⟨503, "", .text ""⟩, ⟨404, "", .text ""⟩], false, []⟩ "doc1"
    "" [] valid).1⟩

end Access

end DocBinder
