import DocBinder.Compile
import DocBinder.Docs.FlatText
import DocBinder.Resolve.Unresolved

/-!
# Resolving formatting

Directives are looked up in the order their texts were inserted, while a cursor moves forward
through the flat text. The cursor never falls behind the position that the text of a directive
must at least have, which is the length of everything inserted before it. Only when that search
fails is the whole document searched, and what it finds counts only inside the scope of the
document, or for a title.
-/

namespace DocBinder

open Docs

/-- A directive with the index units of its text, its label and its spans. -/
structure Resolved where
  directive : Directive
  start : Nat
  stop : Nat
  label : Option (Nat × Nat)
  spans : List (Nat × Nat × SpanStyle)
deriving DecidableEq, Repr, Inhabited

/-- What the directives of a document are looked up in. -/
structure FormattingScope where
  flat : FlatText
  start : Nat
  stop : Nat
  offsets : Option (List Nat)
deriving Repr

/-- The outcome of looking up directives, and what was reported meanwhile. -/
structure Formatting where
  resolved : Except RangeFault (List Resolved)
  log : List Log.Line

namespace Directive

/-- The label that a directive shows, which is never empty. -/
def shownLabel? (directive : Directive) : Option Text :=
  match directive.label with
  | some (character :: rest) => some (character :: rest)
  | _ => none

/-- The text a directive is looked up by: its label line, if any, and its literal text. -/
def anchor (directive : Directive) : Text :=
  match directive.shownLabel? with
  | some label => label ++ '\n' :: directive.literal
  | none => directive.literal

/-- Whether a directive formats a title. -/
def isTitle (directive : Directive) : Bool :=
  directive.kind == .heading (some 1)

/-- The index units of a directive whose anchor stands at a position of the flat text. -/
def place (directive : Directive) (flat : FlatText) (position : Nat) :
    Except RangeFault Resolved := do
  let label ← directive.shownLabel?.mapM fun label =>
    flat.realRange position (position + label.length)
  let content := match directive.shownLabel? with
    | some label => position + label.length + 1
    | none => position
  let (start, stop) ←
    if directive.literal.isEmpty then
      let after := (label.map (·.2 + 1)).getD 0
      pure (after, after)
    else flat.realRange content (content + directive.literal.length)
  let spans ← (directive.spans.filter fun span => span.start < span.stop).mapM fun span => do
    let (start, stop) ← flat.realRange (content + span.start) (content + span.stop)
    pure (start, stop, span.style)
  pure ⟨directive, start, stop, label, spans⟩

end Directive

/-- Where a search of the whole document leads. -/
inductive Candidate where
  | inScope (position : Nat)
  | title (position : Nat)
  | nowhere
deriving DecidableEq, Repr

/-- Go through the positions of an anchor. Those before the last resolved text do not count; the
first one inside the scope wins; otherwise the first one is kept for a title. -/
def chooseCandidate (scope : FormattingScope) (directive : Directive) (lastStop : Nat)
    (kept : Option Nat) : List Nat → Except RangeFault Candidate
  | [] => .ok ((kept.map Candidate.title).getD .nowhere)
  | position :: rest => do
      let (start, stop) ← scope.flat.realRange position (position + directive.anchor.length)
      if start < lastStop then chooseCandidate scope directive lastStop kept rest
      else if scope.start ≤ start && stop ≤ scope.stop then return .inScope position
      else
        let kept := if kept.isNone && directive.isTitle then some position else kept
        chooseCandidate scope directive lastStop kept rest

/-- Search the whole document for the anchor of a directive. -/
def searchWhole (scope : FormattingScope) (directive : Directive) (lastStop : Nat) :
    Except RangeFault Candidate :=
  chooseCandidate scope directive lastStop none (scope.flat.findAll (directive.anchor ++ ['\n']))

/-- The position from which a directive is searched forward: not before the cursor, and not before
the length of what was inserted ahead of it. -/
def forwardStart (scope : FormattingScope) (floor cursor : Nat) (directive : Directive) : Nat :=
  let ahead := (scope.offsets.bind (·[directive.request]?)).getD 0
  max cursor (floor + ahead)

/-- The position of a directive's anchor, unless it stands nowhere, and what is reported. -/
def findAnchor (scope : FormattingScope) (floor cursor lastStop : Nat) (directive : Directive) :
    Except RangeFault (Option Nat × List Log.Line) :=
  let start := forwardStart scope floor cursor directive
  match scope.flat.find? (directive.anchor ++ ['\n']) start with
  | some position => .ok (some position, [])
  | none => do
      match ← searchWhole scope directive lastStop with
      | .inScope position => return (some position, [])
      | .title position =>
          return (some position, [⟨.debug, .positions,
            s!"Title heading '{String.ofList directive.anchor}' resolved outside document scope"⟩])
      | .nowhere =>
          let report : Unresolved :=
            ⟨directive.literal, "text not found in document scope", some (scope.start, scope.stop)⟩
          return (none, [⟨.warning, .positions,
            s!"Skipping {directive.kind.name} formatting: {report.message}"⟩])

/-- Where the search goes on after an anchor: behind it, and behind what follows it when that
stands there. -/
def advance (flat : FlatText) (directive : Directive) (position : Nat) : Nat :=
  let after := position + directive.anchor.length
  if directive.trailing.isPrefixOf (flat.text.drop after) then after + directive.trailing.length
  else after

/-- Look up directives in order. -/
def resolveFrom (scope : FormattingScope) (floor cursor lastStop : Nat) :
    List Directive → Formatting
  | [] => ⟨.ok [], []⟩
  | directive :: rest =>
      if directive.anchor.isEmpty then resolveFrom scope floor cursor lastStop rest
      else
        match findAnchor scope floor cursor lastStop directive with
        | .error fault => ⟨.error fault, []⟩
        | .ok (none, log) =>
            let following := resolveFrom scope floor cursor lastStop rest
            ⟨following.resolved, log ++ following.log⟩
        | .ok (some position, log) =>
            match directive.place scope.flat position with
            | .error fault => ⟨.error fault, log⟩
            | .ok resolved =>
                let following := resolveFrom scope floor
                  (advance scope.flat directive position) resolved.stop rest
                ⟨following.resolved.map (resolved :: ·), log ++ following.log⟩

/-- Look up the directives of one document in a snapshot. The scope begins at `start` and ends at
`stop` or with the body; `offsets` are the lengths of text inserted before each request. -/
def resolve (directives : List Directive) (snapshot : Snapshot) (start : Nat)
    (offsets : Option (List Nat)) (stop : Option Nat) : Formatting :=
  let scope : FormattingScope :=
    ⟨snapshot.flatten false, start, stop.getD snapshot.endIndex, offsets⟩
  let floor := scope.flat.positionAtOrAfter start
  let ordered := directives.mergeSort fun first second => first.request ≤ second.request
  let found := resolveFrom scope floor floor 0 ordered
  match found.resolved with
  | .error _ => found
  | .ok resolved =>
      let wanted := (directives.filter fun directive => !directive.anchor.isEmpty).length
      ⟨.ok resolved, found.log ++ [⟨.debug, .positions,
        s!"Resolved {resolved.length} directive(s), skipped {wanted - resolved.length}"⟩]⟩

/-- The requests that style a resolved directive. -/
def Resolved.requests (item : Resolved) : List Request :=
  let whole := match item.directive.kind with
    | .heading level => [.styleText item.start item.stop (.heading (level.getD 1))]
    | .code _ =>
        (item.label.map fun (start, stop) => Request.styleText start stop .codeLabel).toList
          ++ if item.start < item.stop then [.styleText item.start item.stop .codeContent] else []
    | .paragraph => [.styleText item.start item.stop .plain]
    | .list _ => []
  whole ++ item.spans.map fun (start, stop, style) => .styleText start stop (.ofSpan style)

/-- The requests that style resolved directives. -/
def formattingRequests (resolved : List Resolved) : List Request :=
  resolved.flatMap Resolved.requests

end DocBinder
