/-!
# The stored state

What a project remembers between runs: the document that everything is written to, and for each
source file what was last written.
-/

namespace DocBinder.Sync

/-- What was last written for a source file. -/
structure Record where
  hash : String
  documentId : String
  lastSynced : String
  title : String
deriving DecidableEq, Repr, Inhabited

/-- The state of a project. Records keep the order in which their paths were first written. -/
structure State where
  rootId : Option String
  rootUrl : Option String
  lastSynced : Option String
  records : List (String × Record)
deriving DecidableEq, Repr, Inhabited

namespace State

/-- The state of a project that was never written. -/
def empty : State :=
  ⟨none, none, none, []⟩

/-- Put a record under a path; a path that has one keeps its place. -/
def putRecord (path : String) (record : Record) :
    List (String × Record) → List (String × Record)
  | [] => [(path, record)]
  | (first, old) :: rest =>
      if first == path then (path, record) :: rest else (first, old) :: putRecord path record rest

/-- The digest of what was last written for a path. -/
def hash? (state : State) (path : String) : Option String :=
  (state.records.lookup path).map (·.hash)

/-- Remember that content with a digest was written for a path at a moment. -/
def recordSynced (state : State) (path hash documentId now : String) : State :=
  { state with records := putRecord path ⟨hash, documentId, now, ""⟩ state.records }

/-- Set the title of a path that has a record. -/
def setTitle (state : State) (path title : String) : State :=
  { state with records := state.records.map fun (key, record) =>
      (key, if key == path then { record with title := title } else record) }

/-- The paths with records that are not among those kept, in the order of their characters. -/
def droppedPaths (state : State) (kept : List String) : List String :=
  ((state.records.map (·.1)).filter fun path => !kept.contains path).mergeSort
    fun first second => first ≤ second

/-- Drop the records of all other paths. -/
def retain (state : State) (kept : List String) : State :=
  { state with records := state.records.filter fun entry => kept.contains entry.1 }

/-- Remember the moment at which a run was completed. -/
def markCompleted (state : State) (now : String) : State :=
  { state with lastSynced := some now }

end State

end DocBinder.Sync
