import DocBinder.Text.Basic

/-!
# Name patterns

A pattern of names: a star stands for any characters, a question mark for one, and brackets for one
of a set. A slash is a character like any other. A bracket that is not closed stands for itself.
-/

namespace DocBinder.Project

/-- A part of a pattern. A set holds ranges of characters and may be negated. -/
inductive GlobPart where
  | any
  | one
  | literal (character : Char)
  | set (isNegated : Bool) (ranges : List (Char × Char))
deriving DecidableEq, Repr, Inhabited

/-- A pattern of names. -/
abbrev Glob := List GlobPart

/-- Cut what stands between brackets at the hyphens that make ranges: each has at least one
character before it, and at least two characters between it and the next. `seen` counts the
characters since the last such hyphen. -/
def hyphenPieces (needed : Nat) : Text → List Text
  | [] => [[]]
  | character :: rest =>
      if character == '-' && needed == 0 then
        -- The character after the hyphen ends the range, so it cannot be a hyphen that makes one.
        [] :: hyphenPieces 2 rest
      else
        match hyphenPieces (needed - 1) rest with
        | [] => [[character]]
        | piece :: pieces => (character :: piece) :: pieces

/-- Give an empty last piece, which follows a hyphen at the end, to the piece before. -/
def closeHyphen : List Text → List Text
  | [] => []
  | [piece, []] => [piece ++ ['-']]
  | piece :: pieces => piece :: closeHyphen pieces

/-- Put a piece before pieces. When the range between them is empty, its ends are dropped. -/
def joinRange (piece : Text) : List Text → List Text
  | [] => [piece]
  | next :: pieces =>
      match piece.getLast?, next.head? with
      | some low, some high =>
          if high < low then (piece.dropLast ++ next.drop 1) :: pieces else piece :: next :: pieces
      | _, _ => piece :: next :: pieces

/-- The ranges of a set whose pieces are joined by ranges: the last character of a piece and the
first one of the next are its ends. -/
def rangesOf : List Text → List (Char × Char)
  | [] => []
  | piece :: pieces =>
      let own := piece.map fun character => (character, character)
      match piece.getLast?, pieces.head?.bind List.head? with
      | some low, some high => own ++ (low, high) :: rangesOf pieces
      | _, _ => own ++ rangesOf pieces

/-- What stands between brackets as a part of a pattern. -/
def setPart (content : Text) : GlobPart :=
  let opening := if content.head? == some '!' then 2 else 1
  let pieces := (closeHyphen (hyphenPieces opening content)).foldr joinRange []
  match pieces with
  | ('!' :: first) :: more => .set true (rangesOf (first :: more))
  | pieces => .set false (rangesOf pieces)

/-- The characters up to the closing bracket, and the text after it. A closing bracket directly
after the opening one, or after its exclamation mark, does not close. -/
def bracketed? (text : Text) : Option (Text × Text) :=
  let (mark, body) := match text with
    | '!' :: rest => (['!'], rest)
    | rest => ([], rest)
  let (first, body) := match body with
    | ']' :: rest => ([']'], rest)
    | rest => ([], rest)
  match body.dropWhile (· != ']') with
  | _ :: after => some (mark ++ first ++ body.takeWhile (· != ']'), after)
  | [] => none

/-- Read a pattern; `skip` counts characters that a set before has taken. -/
def globFrom (skip : Nat) : Text → Glob
  | [] => []
  | character :: rest =>
      match skip with
      | skip + 1 => globFrom skip rest
      | 0 =>
          if character == '*' then .any :: globFrom 0 rest
          else if character == '?' then .one :: globFrom 0 rest
          else if character == '[' then
            match bracketed? rest with
            | some (content, after) => setPart content :: globFrom (rest.length - after.length) rest
            | none => .literal '[' :: globFrom 0 rest
          else .literal character :: globFrom 0 rest

/-- Read a pattern. -/
def Glob.ofText (text : Text) : Glob :=
  globFrom 0 text

/-- Whether a part other than a star stands for a character. -/
def GlobPart.accepts (part : GlobPart) (character : Char) : Bool :=
  match part with
  | .any => false
  | .one => true
  | .literal expected => expected == character
  | .set isNegated ranges =>
      ranges.any (fun (low, high) => low ≤ character && character ≤ high) != isNegated

/-- For each end of a pattern, from the whole of it to the empty one, whether it stands for the
empty name: only stars do. -/
def Glob.emptyRow : Glob → List Bool
  | [] => [true]
  | .any :: parts =>
      let row := emptyRow parts
      row.headD false :: row
  | _ :: parts => false :: emptyRow parts

/-- For each end of a pattern, whether it stands for a name that begins with a character, when
`below` says so for the rest of the name. A star takes the character or leaves the name to the parts
after it. -/
def Glob.nextRow (character : Char) : Glob → (below : List Bool) → List Bool
  | [], _ => [false]
  | .any :: parts, below =>
      let row := nextRow character parts below.tail
      (row.headD false || below.headD false) :: row
  | part :: parts, below =>
      (part.accepts character && below.tail.headD false) :: nextRow character parts below.tail

/-- Whether a pattern stands for all of a name. -/
def Glob.accepts (pattern : Glob) (name : Text) : Bool :=
  (name.foldr (fun character below => pattern.nextRow character below) pattern.emptyRow).headD false

/-- Whether one of some patterns stands for a name. -/
def matchesAny (patterns : List String) (name : String) : Bool :=
  patterns.any fun pattern => (Glob.ofText pattern.toList).accepts name.toList

end DocBinder.Project
