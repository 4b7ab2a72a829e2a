import DocBinder.Failure

/-!
# Faults of YAML texts

A text is refused because it is not well formed, or because it is and yet holds something that has
no value, such as a day that the calendar does not have.
-/

namespace DocBinder.Yaml

/-- Why a text has no value. -/
inductive Fault where
  /-- The text is not well formed. -/
  | malformed (note : String)
  /-- The text is well formed, but something in it has no value. -/
  | unusable (failure : Failure)
deriving Repr, Inhabited

end DocBinder.Yaml
