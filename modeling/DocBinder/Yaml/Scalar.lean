import DocBinder.Json.Reader
import DocBinder.Yaml.Cursor
import DocBinder.Yaml.Fault

/-!
# The texts of scalars

A scalar is written plainly, in quotes, or as a block of lines. Line ends inside it are folded: a
single one counts as a blank, of several the first does not count. A block keeps them unless it is
marked as folded.
-/

namespace DocBinder.Yaml

/-! ## Plain scalars -/

/-- Whether a character has a meaning inside brackets and cannot stand in a plain scalar there. -/
def isBracketed (character : Char) : Bool :=
  character == ',' || character == '[' || character == ']' || character == '\x7b'
    || character == '\x7d'

/-- Whether a colon followed by a text separates a key from its value. -/
def separatesKey (inFlow : Bool) (rest : Text) : Bool :=
  endsWord rest || (inFlow && rest.head?.any isBracketed)

/-- The number of characters of a plain scalar up to white space or its end. -/
def plainLength (inFlow : Bool) : Text → Nat
  | [] => 0
  | character :: rest =>
      if isGap character || (character == ':' && separatesKey inFlow rest)
          || (inFlow && (isBracketed character || character == '?')) then 0
      else plainLength inFlow rest + 1

/-- The line ends and blanks between the lines of a plain scalar: the line ends, unless a document
is separated there, and the place after them. -/
def plainBreaks : (fuel : Nat) → Cursor → Option Text × Cursor
  | 0, cursor => (some [], cursor)
  | fuel + 1, cursor =>
      if cursor.isSeparator then (none, cursor)
      else
        let cursor := cursor.skipBlanks
        match cursor.break? with
        | some (lineEnd, cursor) =>
            let (more, cursor) := plainBreaks fuel cursor
            (more.map (lineEnd :: ·), cursor)
        | none => (some [], cursor)

/-- What line ends count as: `first` is the first one, `more` are the others. -/
def foldBreaks (first : Char) (more : Text) : Text :=
  if first != '\n' then first :: more
  else if more.isEmpty then [' ']
  else more

/-- What stands between two words of a plain scalar, whether it ends a line, and the place after
it. Nothing stands there when the scalar has ended. -/
def plainGap (cursor : Cursor) : Text × Bool × Cursor :=
  let (blanks, cursor) := cursor.span (· == ' ')
  match cursor.break? with
  | none => (blanks, false, cursor)
  | some (first, cursor) =>
      match plainBreaks cursor.gapLength.succ cursor with
      | (some more, cursor) => (foldBreaks first more, true, cursor)
      | (none, cursor) => ([], true, cursor)

/-- Go on with a plain scalar at a word, after a gap: the scalar, whether a line has ended after
it, and the place after it. Lines of the scalar are indented by at least `indent`. -/
def plainFrom (inFlow : Bool) (indent : Int) : (fuel : Nat) → (gap : Text) → Cursor →
    Text × Bool × Cursor
  | 0, _, cursor => ([], false, cursor)
  | fuel + 1, gap, cursor =>
      let length := plainLength inFlow cursor.rest
      let word := gap ++ cursor.rest.take length
      let (between, endsLine, after) := plainGap (cursor.skip length)
      if between.isEmpty || after.isAt '#' || (!inFlow && after.column < indent)
          || plainLength inFlow after.rest == 0 then (word, endsLine, after)
      else
        let (more, endsLine, after) := plainFrom inFlow indent fuel between after
        (word ++ more, endsLine, after)

/-! ## Quoted scalars -/

/-- What an escaped character stands for. -/
def shortEscape? : Char → Option Char
  | '0' => some '\x00'
  | 'a' => some '\x07'
  | 'b' => some '\x08'
  | 't' => some '\t'
  | '\t' => some '\t'
  | 'n' => some '\n'
  | 'v' => some '\x0b'
  | 'f' => some '\x0c'
  | 'r' => some '\r'
  | 'e' => some '\x1b'
  | ' ' => some ' '
  | '"' => some '"'
  | '\\' => some '\\'
  | '/' => some '/'
  | 'N' => some '\u0085'
  | '_' => some '\u00a0'
  | 'L' => some '\u2028'
  | 'P' => some '\u2029'
  | _ => none

/-- The number of hexadecimal digits after an escape that names a code point. -/
def codeLength? : Char → Option Nat
  | 'x' => some 2
  | 'u' => some 4
  | 'U' => some 8
  | _ => none

/-- What a code point that is out of range is refused with. -/
def codeFailure (code : Nat) : Failure :=
  if code < Nat.pow 2 31 then .badValue "chr() arg not in range(0x110000)"
  else .foreign "OverflowError" "signed integer is greater than maximum"

/-- The code point that an escape names, and the place after it. -/
def escapedCode (length : Nat) (cursor : Cursor) : Except Fault (Nat × Cursor) :=
  let digits := cursor.rest.take length
  match if digits.length == length then Json.hexNumber? digits else none with
  | none => .error (.malformed "expected hexadecimal digits after an escape")
  | some code =>
      if code < 0x110000 then .ok (code, cursor.skip length)
      else .error (.unusable (codeFailure code))

/-- The characters of code points. Two surrogates that belong together name one character. -/
def joinSurrogates : List Nat → Text
  | [] => []
  | [code] => [Json.scalar code]
  | high :: low :: rest =>
      if Json.isHighSurrogate high && Json.isLowSurrogate low then
        Char.ofNat (0x10000 + (high - 0xD800) * 0x400 + (low - 0xDC00)) :: joinSurrogates rest
      else Json.scalar high :: joinSurrogates (low :: rest)

/-- The line ends inside a quoted scalar after the first, each with the blanks and tabs before it,
and the place after them. -/
def quotedBreaks : (fuel : Nat) → Cursor → Except Fault (Text × Cursor)
  | 0, cursor => .ok ([], cursor)
  | fuel + 1, cursor =>
      if cursor.isSeparator then .error (.malformed "found unexpected document separator")
      else
        let cursor := cursor.skipWhile fun character => character == ' ' || character == '\t'
        match cursor.break? with
        | some (lineEnd, cursor) => do
            let (more, cursor) ← quotedBreaks fuel cursor
            return (lineEnd :: more, cursor)
        | none => .ok ([], cursor)

/-- What white space inside a quoted scalar counts as, and the place after it. -/
def quotedGap (cursor : Cursor) : Except Fault (Text × Cursor) :=
  let (blanks, cursor) := cursor.span fun character => character == ' ' || character == '\t'
  match cursor.break? with
  | none => .ok (blanks, cursor)
  | some (first, cursor) => do
      let (more, cursor) ← quotedBreaks cursor.gapLength.succ cursor
      return (foldBreaks first more, cursor)

/-- What a backslash and the characters after it count as, and the place after them. -/
def escapeSequence (cursor : Cursor) : Except Fault (List Nat × Cursor) :=
  match cursor.rest with
  | [] => .error (.malformed "found unexpected end of stream")
  | character :: _ =>
      match shortEscape? character, codeLength? character with
      | some meant, _ => .ok ([meant.toNat], cursor.next)
      | none, some length => do
          let (code, cursor) ← escapedCode length cursor.next
          return ([code], cursor)
      | none, none =>
          match cursor.break? with
          | some (_, cursor) => do
              let (breaks, cursor) ← quotedBreaks cursor.gapLength.succ cursor
              return (breaks.map Char.toNat, cursor)
          | none => .error (.malformed "found unknown escape character")

/-- The code points of a quoted scalar up to its closing quotation mark, and the place after
it. -/
def quotedFrom (quote : Char) : (fuel : Nat) → Cursor → Except Fault (List Nat × Cursor)
  | 0, _ => .error (.malformed "found unexpected end of stream")
  | fuel + 1, cursor => do
      match cursor.rest with
      | [] => .error (.malformed "found unexpected end of stream")
      | character :: rest =>
          if character == quote then
            if quote == '\'' && rest.head? == some quote then
              let (more, after) ← quotedFrom quote fuel (cursor.skip 2)
              return (quote.toNat :: more, after)
            else return ([], cursor.next)
          else if isGap character then
            let (gap, after) ← quotedGap cursor
            let (more, after) ← quotedFrom quote fuel after
            return (gap.map Char.toNat ++ more, after)
          else if character == '\\' && quote == '"' then
            let (codes, after) ← escapeSequence cursor.next
            let (more, after) ← quotedFrom quote fuel after
            return (codes ++ more, after)
          else
            let (more, after) ← quotedFrom quote fuel cursor.next
            return (character.toNat :: more, after)

/-- A quoted scalar: its text and the place after it; `limit` bounds the number of characters to
come. -/
def quotedScalar (limit : Nat) (cursor : Cursor) : Except Fault (Text × Cursor) :=
  match cursor.rest with
  | [] => .error (.malformed "found unexpected end of stream")
  | quote :: _ => do
      let (codes, after) ← quotedFrom quote limit cursor.next
      return (joinSurrogates codes, after)

/-! ## Block scalars -/

/-- What happens to the line ends at the end of a block. -/
inductive Chomping where
  | strip
  | clip
  | keep
deriving DecidableEq, Repr, Inhabited

/-- How the head of a block says that line ends are treated. -/
def chomping? : Char → Option Chomping
  | '+' => some .keep
  | '-' => some .strip
  | _ => none

/-- The chomping that stands at a place, if any does, and the place after it. -/
def chompingAt (cursor : Cursor) : Option Chomping × Cursor :=
  match cursor.peek?.bind chomping? with
  | some chomping => (some chomping, cursor.next)
  | none => (none, cursor)

/-- The depth of indentation that stands at a place, if any does, and the place after it. -/
def depthAt (cursor : Cursor) : Except Fault (Option Nat × Cursor) :=
  match cursor.peek? with
  | some character =>
      if !character.isDigit then .ok (none, cursor)
      else if character == '0' then
        .error (.malformed "expected an indentation indicator in the range 1 to 9")
      else .ok (some (character.toNat - '0'.toNat), cursor.next)
  | none => .ok (none, cursor)

/-- The head of a block: the chomping and the depth of indentation, in either order, and the place
of the first line. -/
def blockHead (cursor : Cursor) : Except Fault (Chomping × Option Nat × Cursor) := do
  let (before, cursor) := chompingAt cursor
  let (depth, cursor) ← depthAt cursor
  let (after, cursor) := if before.isNone && depth.isSome then chompingAt cursor else (none, cursor)
  if !endsField cursor.rest then
    .error (.malformed "expected chomping or indentation indicators")
  else
    match cursor.skipIgnored? with
    | some cursor => return ((before.or after).getD .clip, depth, cursor)
    | none => .error (.malformed "expected a comment or a line break")

/-- The line ends and blanks before the first line of a block whose indentation is not given: the
line ends, the largest column reached after a blank, and the place after them. -/
def leadingBreaks : (fuel : Nat) → (deepest : Nat) → Cursor → Text × Nat × Cursor
  | 0, deepest, cursor => ([], deepest, cursor)
  | fuel + 1, deepest, cursor =>
      let cursor := cursor.skipBlanks
      let deepest := if cursor.column > deepest then cursor.column else deepest
      match cursor.break? with
      | some (lineEnd, cursor) =>
          let (more, deepest, cursor) := leadingBreaks fuel deepest cursor
          (lineEnd :: more, deepest, cursor)
      | none => ([], deepest, cursor)

/-- Whether a line begins with a blank or a tab. -/
def beginsBlank (cursor : Cursor) : Bool :=
  cursor.isAt ' ' || cursor.isAt '\t'

/-- What the end of a line of a block counts as before another line of it, when `more` line ends
stand between. -/
def blockBreak (folded : Bool) (line next : Cursor) (lineEnd : Char) (more : Text) : Text :=
  if folded && lineEnd == '\n' && !beginsBlank line && !beginsBlank next then
    if more.isEmpty then [' '] else more
  else lineEnd :: more

/-- The lines of a block from a place on, indented by `indent`: the text, the last line end, the
line ends after it, and the place after them. -/
def blockLines (folded : Bool) (indent : Nat) : (fuel : Nat) → Cursor →
    Text × Text × Text × Cursor
  | 0, cursor => ([], [], [], cursor)
  | fuel + 1, cursor =>
      let (line, after) := cursor.span fun character => !isBreak character
      match after.break? with
      | none => (line, [], [], after)
      | some (lineEnd, after) =>
          let (more, after) := after.breaksWithin indent after.gapLength.succ
          if after.column == indent && !after.rest.isEmpty then
            let (text, last, trailing, stop) := blockLines folded indent fuel after
            (line ++ blockBreak folded cursor after lineEnd more ++ text, last, trailing, stop)
          else (line, [lineEnd], more, after)

/-- A block scalar in a node that is indented by `outer`: its text and the place after it; `limit`
bounds the number of characters to come. -/
def blockScalar (limit : Nat) (folded : Bool) (outer : Int) (cursor : Cursor) :
    Except Fault (Text × Cursor) := do
  let (chomping, depth, cursor) ← blockHead cursor.next
  let least := (max 1 (outer + 1)).toNat
  let (indent, (leading, cursor)) := match depth with
    | some depth => (least + depth - 1, cursor.breaksWithin (least + depth - 1) limit)
    | none =>
        let (leading, deepest, after) := leadingBreaks limit 0 cursor
        (max least deepest, (leading, after))
  let (text, last, trailing, after) :=
    if cursor.column == indent && !cursor.rest.isEmpty then
      let (text, last, trailing, after) := blockLines folded indent limit cursor
      (leading ++ text, last, trailing, after)
    else ([], [], leading, cursor)
  return (match chomping with
    | .strip => text
    | .clip => text ++ last
    | .keep => text ++ last ++ trailing, after)

end DocBinder.Yaml
