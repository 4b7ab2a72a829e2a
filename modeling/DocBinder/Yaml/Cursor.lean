import DocBinder.Text.Basic

/-!
# Places in a YAML text

A cursor holds the text from a place on, with the number of characters before it, its line and its
column. The lines of YAML end at line feeds, carriage returns, next-line characters and the two
Unicode separators.
-/

namespace DocBinder.Yaml

/-- Whether a character ends a line. -/
def isBreak (character : Char) : Bool :=
  character == '\n' || character == '\r' || character == '\u0085' || character == '\u2028'
    || character == '\u2029'

/-- Whether a character is white space. -/
def isGap (character : Char) : Bool :=
  character == ' ' || character == '\t' || isBreak character

/-- Whether a text has ended or goes on with white space. -/
def endsWord : Text → Bool
  | [] => true
  | character :: _ => isGap character

/-- Whether a text has ended or goes on with a blank or a line end, but not a tab. -/
def endsField : Text → Bool
  | [] => true
  | character :: _ => character == ' ' || isBreak character

/-- Whether a line of a text has ended. -/
def endsLine : Text → Bool
  | [] => true
  | character :: _ => isBreak character

/-- A place in a text. -/
structure Cursor where
  rest : Text
  index : Nat
  line : Nat
  column : Nat
deriving Repr, Inhabited

namespace Cursor

/-- The start of a text. -/
def start (text : Text) : Cursor :=
  ⟨text, 0, 0, 0⟩

/-- The character at a place. -/
def peek? (cursor : Cursor) : Option Char :=
  cursor.rest.head?

/-- Whether a place holds a character. -/
def isAt (cursor : Cursor) (character : Char) : Bool :=
  cursor.rest.head? == some character

/-- The place after the next character. A carriage return before a line feed does not end a line by
itself, and a byte order mark takes no column. -/
def next (cursor : Cursor) : Cursor :=
  match cursor.rest with
  | [] => cursor
  | character :: rest =>
      if isBreak character && !(character == '\r' && rest.head? == some '\n') then
        ⟨rest, cursor.index + 1, cursor.line + 1, 0⟩
      else if character == '\ufeff' then ⟨rest, cursor.index + 1, cursor.line, cursor.column⟩
      else ⟨rest, cursor.index + 1, cursor.line, cursor.column + 1⟩

/-- The place some characters on. -/
def skip (cursor : Cursor) : Nat → Cursor
  | 0 => cursor
  | count + 1 => cursor.next.skip count

/-- The characters of a kind from a place on, and the place after them. -/
def span (cursor : Cursor) (kind : Char → Bool) : Text × Cursor :=
  let taken := cursor.rest.takeWhile kind
  (taken, cursor.skip taken.length)

/-- The place after the characters of a kind. -/
def skipWhile (cursor : Cursor) (kind : Char → Bool) : Cursor :=
  (cursor.span kind).2

/-- The number of characters of white space at a place. -/
def gapLength (cursor : Cursor) : Nat :=
  (cursor.rest.takeWhile isGap).length

/-- The place after the blanks, tabs not counted. -/
def skipBlanks (cursor : Cursor) : Cursor :=
  cursor.skipWhile (· == ' ')

/-- The place at the end of the line. -/
def skipLine (cursor : Cursor) : Cursor :=
  cursor.skipWhile fun character => !isBreak character

/-- A line end, as it counts in a scalar, and the place after it. The Unicode separators stay what
they are; every other line end counts as a line feed. -/
def break? (cursor : Cursor) : Option (Char × Cursor) :=
  match cursor.rest with
  | '\r' :: '\n' :: _ => some ('\n', cursor.skip 2)
  | character :: _ =>
      if character == '\u2028' || character == '\u2029' then some (character, cursor.next)
      else if isBreak character then some ('\n', cursor.next)
      else none
  | [] => none

/-- The place after blanks, a comment and the line end, if nothing else is on the line. -/
def skipIgnored? (cursor : Cursor) : Option Cursor :=
  let cursor := cursor.skipBlanks
  let cursor := if cursor.isAt '#' then cursor.skipLine else cursor
  match cursor.break? with
  | some (_, cursor) => some cursor
  | none => if cursor.rest.isEmpty then some cursor else none

/-- Whether the start or the end of a document is marked at a place. -/
def isSeparator (cursor : Cursor) : Bool :=
  match cursor.rest with
  | '-' :: '-' :: '-' :: rest => endsWord rest
  | '.' :: '.' :: '.' :: rest => endsWord rest
  | _ => false

/-- The line ends at a place, each after less than `indent` blanks, and the place after them and
the blanks that follow; `fuel` bounds the number of lines. -/
def breaksWithin (indent : Nat) : (fuel : Nat) → Cursor → Text × Cursor
  | 0, cursor => ([], cursor)
  | fuel + 1, cursor =>
      let blanks := (cursor.rest.take (indent - cursor.column)).takeWhile (· == ' ')
      let cursor := cursor.skip blanks.length
      match cursor.break? with
      | some (lineEnd, cursor) =>
          let (more, cursor) := breaksWithin indent fuel cursor
          (lineEnd :: more, cursor)
      | none => ([], cursor)

end Cursor

end DocBinder.Yaml
