/-!
# Outcomes

What became of the documents of a run: how far each one got, what was counted on the way, and the
totals of the run.
-/

namespace DocBinder.Sync

/-- How far a document got. -/
inductive Phase where
  | idle
  | contentApplied
  | tablesPopulated
  | formatted
  | linksResolved
  | done
  | failed
deriving DecidableEq, Repr, Inhabited

namespace Phase

/-- All phases. -/
def all : List Phase :=
  [.idle, .contentApplied, .tablesPopulated, .formatted, .linksResolved, .done, .failed]

/-- The name of a phase. -/
def name : Phase → String
  | .idle => "idle"
  | .contentApplied => "content_applied"
  | .tablesPopulated => "tables_populated"
  | .formatted => "formatted"
  | .linksResolved => "links_resolved"
  | .done => "done"
  | .failed => "failed"

/-- The phase of a name. -/
def ofName? (name : String) : Option Phase :=
  all.find? (·.name == name)

end Phase

/-- What a run did with a document. -/
inductive Status where
  | created
  | updated
  | skipped
  | failed
deriving DecidableEq, Repr, Inhabited

namespace Status

/-- All statuses. -/
def all : List Status :=
  [.created, .updated, .skipped, .failed]

/-- The name of a status. -/
def name : Status → String
  | .created => "created"
  | .updated => "updated"
  | .skipped => "skipped"
  | .failed => "failed"

/-- The status of a name. -/
def ofName? (name : String) : Option Status :=
  all.find? (·.name == name)

end Status

/-- What is counted while a document goes through the phases. -/
structure Stats where
  requests : Nat
  directivesResolved : Nat
  directivesSkipped : Nat
  cellsPopulated : Nat
  linksResolved : Nat
  imagesInserted : Nat
  imagesFallback : Nat
  placeholdersUnresolved : Nat
  blocksDropped : Nat
deriving DecidableEq, Repr, Inhabited

/-- Nothing counted. -/
def Stats.zero : Stats :=
  ⟨0, 0, 0, 0, 0, 0, 0, 0, 0⟩

/-- What became of a document. -/
structure Outcome where
  path : String
  title : String
  phase : Phase
  status : Option Status
  error : Option String
  failedPhase : Option Phase
  stats : Stats
deriving DecidableEq, Repr, Inhabited

namespace Outcome

/-- A document before the first phase. -/
def start (path title : String) : Outcome :=
  ⟨path, title, .idle, none, none, none, .zero⟩

/-- Whether a document went through all phases. -/
def succeeded (outcome : Outcome) : Bool :=
  outcome.phase == .done

/-- A document that failed in the phase it had reached. -/
def fail (outcome : Outcome) (error : String) : Outcome :=
  { outcome with phase := .failed, failedPhase := some outcome.phase, error := some error }

end Outcome

/-- The outcomes of a run. -/
structure Run where
  documentId : Option String
  outcomes : List Outcome
deriving DecidableEq, Repr, Inhabited

namespace Run

/-- Add an outcome. -/
def record (run : Run) (outcome : Outcome) : Run :=
  { run with outcomes := run.outcomes ++ [outcome] }

/-- The number of documents with a status. -/
def count (run : Run) (status : Status) : Nat :=
  run.outcomes.countP (·.status == some status)

/-- The number of documents. -/
def total (run : Run) : Nat :=
  run.outcomes.length

/-- The documents that failed. -/
def failures (run : Run) : List Outcome :=
  run.outcomes.filter (·.status == some .failed)

end Run

end DocBinder.Sync
