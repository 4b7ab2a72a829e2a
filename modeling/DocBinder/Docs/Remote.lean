import DocBinder.Docs.Request
import DocBinder.Failure

/-!
# Remote documents

The operations on remote documents that a run needs, over any state that a service keeps. An
operation that fails leaves the state it has reached.
-/

namespace DocBinder.Docs

/-- An operation on a service with a state. -/
abbrev Call (σ α : Type) := ExceptT Failure (StateM σ) α

/-- A service that holds documents, together with the access to it. -/
structure Remote (σ : Type) where
  /-- Fetch a document in wire form. -/
  fetch : (documentId : String) → Call σ Value
  /-- Make a document with a title; its wire form names its identifier. -/
  create : (title : String) → Call σ Value
  /-- Apply a batch of requests to a document, all of them or none. -/
  update : (documentId : String) → List Request → Call σ Unit
  /-- Forget the current session. -/
  reset : Call σ Unit
  /-- Forget the stored access tokens. -/
  clearTokens : Call σ Unit
  /-- Ask for new access tokens. -/
  authenticate : Call σ Unit

end DocBinder.Docs
