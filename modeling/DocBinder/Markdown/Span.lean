import DocBinder.Text.Basic
import DocBinder.Text.Word

/-!
# Inline spans

Bold, italic and code spans of one line of Markdown. Each style has a scanner that reads the whole
line from left to right; matches of one style never overlap each other. Of two overlapping
matches of different styles the one whose style has the higher priority is kept, and the other
stays literal text. The markers of the kept matches are removed, and the spans are positions in
the text that remains.
-/

namespace DocBinder

/-- How a span of text is shown. -/
inductive SpanStyle where
  | bold
  | italic
  | code
deriving DecidableEq, Repr, Inhabited

/-- The name of a style. -/
def SpanStyle.name : SpanStyle → String
  | .bold => "bold"
  | .italic => "italic"
  | .code => "code"

/-- The style of a name. -/
def SpanStyle.ofName? : String → Option SpanStyle
  | "bold" => some .bold
  | "italic" => some .italic
  | "code" => some .code
  | _ => none

/-- A styled range of a text, from `start` up to `stop`. -/
structure Span where
  start : Nat
  stop : Nat
  style : SpanStyle
deriving DecidableEq, Repr, Inhabited

/-- The number of characters of a span. -/
def Span.length (span : Span) : Nat :=
  span.stop - span.start

/-- Move a span to the right. -/
def Span.shift (span : Span) (distance : Nat) : Span :=
  { span with start := distance + span.start, stop := distance + span.stop }

namespace Markdown

/-- A match of an inline pattern in a line: an opening marker at `start`, at least one character
inside, and a closing marker of the same width. -/
structure Emphasis where
  style : SpanStyle
  start : Nat
  marker : Nat
  inner : Nat
deriving DecidableEq, Repr, Inhabited

namespace Emphasis

/-- Where the styled characters begin. -/
def innerStart (emphasis : Emphasis) : Nat :=
  emphasis.start + emphasis.marker

/-- Where the closing marker begins. -/
def innerStop (emphasis : Emphasis) : Nat :=
  emphasis.innerStart + emphasis.inner

/-- Where the match ends. -/
def stop (emphasis : Emphasis) : Nat :=
  emphasis.innerStop + emphasis.marker

/-- Whether two matches share a position. -/
def overlaps (first second : Emphasis) : Bool :=
  first.start < second.stop && second.start < first.stop

end Emphasis

/-- The number of characters before the nearest closing marker, at least one of them, none of them
a line feed. `closes before rest` decides whether the marker stands at `rest` after the
character `before`. -/
def nearest (closes : Char → Text → Bool) (passed : Nat) : Text → Option Nat
  | [] => none
  | character :: rest =>
      if character = '\n' then none
      else if closes character rest then some (passed + 1)
      else nearest closes (passed + 1) rest

/-- A code span: characters other than a backtick between two backticks. -/
def codeAt : Text → Option (Nat × Nat)
  | '`' :: rest =>
      let inner := rest.takeWhile fun character => character != '`' && character != '\n'
      if inner.isEmpty then none
      else
        match rest.drop inner.length with
        | '`' :: _ => some (1, inner.length)
        | _ => none
  | _ => none

/-- A bold span: a doubled marker, then the nearest doubled marker that leaves a character between
them. -/
def boldAt : Text → Option (Nat × Nat)
  | '*' :: '*' :: rest =>
      (nearest (fun _ after => ['*', '*'].isPrefixOf after) 0 rest).map fun inner => (2, inner)
  | '_' :: '_' :: rest =>
      (nearest (fun _ after => ['_', '_'].isPrefixOf after) 0 rest).map fun inner => (2, inner)
  | _ => none

/-- Whether a character can stand next to a single marker on its inner side. -/
def isInnerEdge (marker character : Char) : Bool :=
  !Text.isBlank character && character != marker

/-- An italic span between single markers: outside them stands no character of the kind `joins`,
and inside next to them neither a blank nor the marker. -/
def singleAt (marker : Char) (joins : Char → Bool) (before : Option Char) (rest : Text) :
    Option (Nat × Nat) :=
  if before.any joins then none
  else
    match rest with
    | first :: _ =>
        if isInnerEdge marker first then
          (nearest (fun last after =>
              isInnerEdge marker last
                && match after with
                  | close :: following => close == marker && !following.head?.any joins
                  | [] => false) 0 rest).map fun inner => (1, inner)
        else none
    | [] => none

/-- An italic span: single asterisks that touch no further asterisk, or single underscores that
touch no word character on the outside. -/
def italicAt (before : Option Char) : Text → Option (Nat × Nat)
  | '*' :: rest => singleAt '*' (· == '*') before rest
  | '_' :: rest => singleAt '_' Text.isWord before rest
  | _ => none

/-- The match of a style at the head of a text: the width of its markers and the number of
characters between them. -/
def emphasisAt (style : SpanStyle) (before : Option Char) (text : Text) : Option (Nat × Nat) :=
  match style with
  | .code => codeAt text
  | .bold => boldAt text
  | .italic => italicAt before text

/-- The matches of a style from left to right, each search starting where the last match ended;
`skip` counts the characters of a match still to pass. -/
def scanFrom (style : SpanStyle) (before : Option Char) (position skip : Nat) :
    Text → List Emphasis
  | [] => []
  | character :: rest =>
      match skip with
      | skip + 1 => scanFrom style (some character) (position + 1) skip rest
      | 0 =>
          match emphasisAt style before (character :: rest) with
          | some (marker, inner) =>
              ⟨style, position, marker, inner⟩
                :: scanFrom style (some character) (position + 1) (2 * marker + inner - 1) rest
          | none => scanFrom style (some character) (position + 1) 0 rest

/-- All matches of a style in a line. -/
def scan (style : SpanStyle) (text : Text) : List Emphasis :=
  scanFrom style none 0 0 text

/-- Keep the matches that overlap none of those already kept. -/
def keepFree (kept found : List Emphasis) : List Emphasis :=
  kept ++ found.filter fun emphasis => !kept.any emphasis.overlaps

/-- The matches that count: all code spans, then the bold ones free of them, then the italic ones
free of both. -/
def accepted (text : Text) : List Emphasis :=
  keepFree (keepFree (scan .code text) (scan .bold text)) (scan .italic text)

/-- Remove the markers of matches that stand in order. `position` is where the remaining text
begins in the line and `written` counts the characters already written. -/
def removeMarkers (position written : Nat) (rest : Text) : List Emphasis → Text × List Span
  | [] => (rest, [])
  | emphasis :: following =>
      let before := rest.take (emphasis.start - position)
      let inner := (rest.drop (emphasis.innerStart - position)).take emphasis.inner
      let start := written + before.length
      let stop := start + inner.length
      let (text, spans) :=
        removeMarkers emphasis.stop stop (rest.drop (emphasis.stop - position)) following
      (before ++ inner ++ text, ⟨start, stop, emphasis.style⟩ :: spans)

/-- A line of text without its inline markers, and where the styled characters are in it. -/
def inlineSpans (line : Text) : Text × List Span :=
  removeMarkers 0 0 line ((accepted line).mergeSort fun first second => first.start ≤ second.start)

end Markdown

end DocBinder
