import DocBinder.Access.Diagnosis

/-!
# Trying again

An operation that fails for a reason that may pass by itself is tried again, at most three times,
after waits of one, two and four seconds. Every other failure is final.
-/

namespace DocBinder.Access

/-- How often an operation is tried again. -/
def maxRetries : Nat := 3

/-- What a service says when too much is asked of it, in lower case. -/
def limitPhrases : List String :=
  ["429", "too many requests", "rate limit exceeded", "rate limit hit", "rate limited",
    "quota exceeded"]

/-- Whether the text of a failure speaks of a limit. -/
def speaksOfLimit (message : String) : Bool :=
  let lowered := Text.lower message.toList
  limitPhrases.any fun phrase => Text.contains lowered phrase.toList

/-- Whether a failure may pass by itself. -/
def mayPass (failure : Failure) : Bool :=
  if failure.cause.isTransient then true
  else if failure.cause.isDocs then false
  else
    speaksOfLimit failure.message || statusWithin 429 430 (statusOf failure)
      || statusWithin 500 600 (statusOf failure)

variable {m : Type → Type} [Monad m] {α : Type}

/-- What is reported when no try is left. -/
def gaveUp (failure : Failure) : Log.Line :=
  ⟨.error, .retry,
    s!"Transient error persisted after {maxRetries} retries, giving up: {failure.message}"⟩

/-- What is reported before another try. -/
def tryingAgain (failure : Failure) (tried : Nat) : Log.Line :=
  ⟨.info, .retry, s!"Transient error ({failure.message}), retrying in {Nat.pow 2 tried}s "
    ++ s!"(retry {tried + 1}/{maxRetries})"⟩

/-- Carry out an operation. While its failure may pass and tries are left, wait and try again;
`tried` counts the tries that failed. -/
def retryFrom (operation : m (Except Failure α)) (wait : Nat → m Unit)
    (report : Log.Line → m Unit) (tried : Nat) : (left : Nat) → m (Except Failure α)
  | 0 => do
      match ← operation with
      | .ok result => return .ok result
      | .error failure =>
          if mayPass failure then
            report (gaveUp failure)
            return .error (.of (.accessFailed retriesExhausted))
          else return .error failure
  | left + 1 => do
      match ← operation with
      | .ok result => return .ok result
      | .error failure =>
          if mayPass failure then
            report (tryingAgain failure tried)
            wait (Nat.pow 2 tried)
            retryFrom operation wait report (tried + 1) left
          else return .error failure

/-- Carry out an operation, and try it again while its failure may pass. -/
def retry (operation : m (Except Failure α)) (wait : Nat → m Unit) (report : Log.Line → m Unit) :
    m (Except Failure α) :=
  retryFrom operation wait report 0 maxRetries

end DocBinder.Access
