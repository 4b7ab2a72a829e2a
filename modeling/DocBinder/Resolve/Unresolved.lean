import DocBinder.Text.Basic

/-!
# Unresolved texts

The report of a text that could not be found where a directive needs it.
-/

namespace DocBinder

/-- A text that could not be resolved, why, and the index units it was looked for in. -/
structure Unresolved where
  literal : Text
  reason : String
  scope : Option (Int × Int)
deriving DecidableEq, Repr, Inhabited

/-- The report in words; a long text is cut. -/
def Unresolved.message (unresolved : Unresolved) : String :=
  let literal := unresolved.literal
  let preview := if literal.length ≤ 60 then literal else literal.take 57 ++ ['.', '.', '.']
  let scope := match unresolved.scope with
    | some (start, stop) => s!" (scope {start}-{stop})"
    | none => ""
  s!"Cannot resolve '{String.ofList preview}': {unresolved.reason}{scope}"

end DocBinder
