import DocBinder.Yaml.Property
import DocBinder.Yaml.Scalar

/-!
# Tokens

A YAML text as a list of tokens. Indentation becomes tokens that open and close block collections.
A key is only known to be one when the colon after it is reached: the place of every token that may
begin a key is kept until then, and the tokens for the key are put in at the end. A text that
breaks a rule of layout ends in a fault after the tokens before it.
-/

namespace DocBinder.Yaml

/-- A token. -/
inductive Token where
  | directive (read : Directive)
  | documentStart
  | documentEnd
  | blockSequence
  | blockMapping
  | blockEnd
  | openSequence
  | closeSequence
  | openMapping
  | closeMapping
  | entry
  | separator
  | key
  | value
  | alias (name : String)
  | anchor (name : String)
  | tag (written : WrittenTag)
  | scalar (text : Text) (isPlain : Bool)
deriving DecidableEq, Repr, Inhabited

/-- A token that may begin a key, and the place of it. In a block, a token at the indentation of
the block has to begin one. -/
structure KeyStart where
  token : Nat
  isRequired : Bool
  index : Nat
  line : Nat
  column : Nat
deriving Repr, Inhabited

/-- How far a text has been cut into tokens: the place, the tokens in reverse and their number, the
keys that were recognised (before which token, and whether they open a mapping), the depth of
brackets, the indentation of the block and of the blocks around it, whether a key may begin here,
and at each depth of brackets the token that may begin one. -/
structure Layout where
  cursor : Cursor
  tokens : List Token
  count : Nat
  keys : List (Nat × Bool)
  depth : Nat
  indent : Int
  outer : List Int
  allowsKey : Bool
  starts : List (Nat × KeyStart)
deriving Repr, Inhabited

namespace Layout

/-- The layout at the start of a text. -/
def start (text : Text) : Layout :=
  ⟨.start text, [], 0, [], 0, -1, [], true, []⟩

/-- Whether the place is inside brackets. -/
def inFlow (layout : Layout) : Bool :=
  layout.depth != 0

/-- Add a token. -/
def push (layout : Layout) (token : Token) : Layout :=
  { layout with tokens := token :: layout.tokens, count := layout.count + 1 }

/-- Add a token of some characters. -/
def take (layout : Layout) (count : Nat) (token : Token) : Layout :=
  { layout.push token with cursor := layout.cursor.skip count }

/-- Say whether a key may begin here. -/
def allow (layout : Layout) (allowed : Bool) : Layout :=
  { layout with allowsKey := allowed }

/-- Close the blocks that are indented by more than a column. Indentation does not count inside
brackets. -/
def unwindFrom (layout : Layout) (column : Int) : List Int → Layout
  | [] => { layout with outer := [] }
  | outer :: more =>
      if column < layout.indent then
        unwindFrom { layout.push .blockEnd with indent := outer } column more
      else { layout with outer := outer :: more }

/-- Close the blocks that are indented by more than a column. -/
def unwind (layout : Layout) (column : Int) : Layout :=
  if layout.inFlow then layout else layout.unwindFrom column layout.outer

/-- Open a block at a column, if it is not open. Gives whether it was opened. -/
def openAt (layout : Layout) (column : Nat) : Bool × Layout :=
  if layout.indent < column then
    (true, { layout with indent := column, outer := layout.indent :: layout.outer })
  else (false, layout)

/-- Open a block of a kind at the current column, if it is not open. -/
def openBlock (layout : Layout) (kind : Token) : Layout :=
  match layout.openAt layout.cursor.column with
  | (true, layout) => layout.push kind
  | (false, layout) => layout

/-- The fault of a key without its colon. -/
def missingColon : Fault :=
  .malformed "could not find expected ':'"

/-- Give up tokens that can no longer begin a key: a key stands on one line and is not longer than
1024 characters. -/
def dropStale (layout : Layout) : Except Fault Layout :=
  let isStale (start : KeyStart) : Bool :=
    start.line != layout.cursor.line || layout.cursor.index - start.index > 1024
  if layout.starts.any fun (_, start) => isStale start && start.isRequired then .error missingColon
  else .ok { layout with starts := layout.starts.filter fun (_, start) => !isStale start }

/-- Give up the token that may begin a key at this depth. -/
def dropStart (layout : Layout) : Except Fault Layout :=
  match layout.starts.lookup layout.depth with
  | some start =>
      if start.isRequired then .error missingColon
      else .ok { layout with starts := layout.starts.filter (·.1 != layout.depth) }
  | none => .ok layout

/-- Note that the next token may begin a key, where keys may begin. -/
def noteStart (layout : Layout) : Except Fault Layout :=
  if layout.allowsKey then do
    let layout ← layout.dropStart
    let cursor := layout.cursor
    let isRequired := !layout.inFlow && layout.indent == cursor.column
    let start : KeyStart :=
      ⟨layout.count, isRequired, cursor.index, cursor.line, cursor.column⟩
    return { layout with starts := (layout.depth, start) :: layout.starts }
  else .ok layout

/-- The place of the next token. Outside brackets, a line end allows a key. -/
def skipToToken : (fuel : Nat) → Layout → Layout
  | 0, layout => layout
  | fuel + 1, layout =>
      let cursor := layout.cursor.skipBlanks
      let cursor := if cursor.isAt '#' then cursor.skipLine else cursor
      match cursor.break? with
      | some (_, cursor) =>
          skipToToken fuel
            { layout with cursor := cursor, allowsKey := layout.allowsKey || !layout.inFlow }
      | none => { layout with cursor := cursor }

/-- A directive, or the start or end of a document: it closes all blocks. -/
def outsideBlocks (layout : Layout) : Except Fault Layout := do
  return (← (layout.unwind (-1)).dropStart).allow false

/-- A dash before an entry of a sequence. -/
def entryToken (layout : Layout) : Except Fault Layout := do
  if !layout.inFlow && !layout.allowsKey then
    .error (.malformed "sequence entries are not allowed here")
  else
    let layout := if layout.inFlow then layout else layout.openBlock .blockSequence
    return (← (layout.allow true).dropStart).take 1 .entry

/-- A question mark before a key. -/
def keyToken (layout : Layout) : Except Fault Layout := do
  if !layout.inFlow && !layout.allowsKey then
    .error (.malformed "mapping keys are not allowed here")
  else
    let layout := if layout.inFlow then layout else layout.openBlock .blockMapping
    return (← (layout.allow !layout.inFlow).dropStart).take 1 .key

/-- A colon after a key that began at a token. -/
def valueAfterKey (layout : Layout) (start : KeyStart) : Layout :=
  let layout := { layout with starts := layout.starts.filter (·.1 != layout.depth) }
  let (opened, layout) := if layout.inFlow then (false, layout) else layout.openAt start.column
  { layout.allow false with keys := (start.token, opened) :: layout.keys }.take 1 .value

/-- A colon before a value. -/
def valueToken (layout : Layout) : Except Fault Layout := do
  match layout.starts.lookup layout.depth with
  | some start => return layout.valueAfterKey start
  | none =>
      if !layout.inFlow && !layout.allowsKey then
        .error (.malformed "mapping values are not allowed here")
      else
        let layout := if layout.inFlow then layout else layout.openBlock .blockMapping
        return (layout.allow !layout.inFlow).take 1 .value

/-- An opening bracket. -/
def openBracket (layout : Layout) (token : Token) : Except Fault Layout := do
  let layout ← layout.noteStart
  return ({ layout with depth := layout.depth + 1 }.allow true).take 1 token

/-- A closing bracket. -/
def closeBracket (layout : Layout) (token : Token) : Except Fault Layout := do
  if !layout.inFlow then .error (.malformed "found a closing bracket without an opening one")
  else
    let layout ← layout.dropStart
    return ({ layout with depth := layout.depth - 1 }.allow false).take 1 token

/-- A part of a node that was read up to a place. -/
def part (layout : Layout) (read : Except Fault (Token × Cursor)) : Except Fault Layout := do
  let layout ← layout.noteStart
  let (token, cursor) ← read
  return { (layout.allow false).push token with cursor := cursor }

/-- A scalar in a block of lines; `limit` bounds the number of characters to come. -/
def blockToken (layout : Layout) (limit : Nat) (folded : Bool) : Except Fault Layout := do
  let layout ← (layout.allow true).dropStart
  let (text, cursor) ← blockScalar limit folded layout.indent layout.cursor
  return { layout.push (.scalar text false) with cursor := cursor }

/-- A plain scalar. A key may begin after it when its last line has ended. `limit` bounds the number
of characters to come. -/
def plainToken (layout : Layout) (limit : Nat) : Except Fault Layout := do
  let layout ← layout.noteStart
  let (text, endsLine, cursor) :=
    plainFrom layout.inFlow (layout.indent + 1) limit [] layout.cursor
  return { (layout.allow endsLine).push (.scalar text true) with cursor := cursor }

/-- Whether a plain scalar can begin with a text. -/
def beginsPlain (inFlow : Bool) : Text → Bool
  | [] => false
  | character :: rest =>
      let indicators := "-?:,[]\x7b\x7d#&*!|>'\"%@`".toList
      (!isGap character && !indicators.contains character)
        || (!endsWord rest
          && (character == '-' || (!inFlow && (character == '?' || character == ':'))))

/-- The token at a place that is not the end of the text; `limit` bounds the number of characters to
come. -/
def token (layout : Layout) (limit : Nat) (character : Char) (rest : Text) :
    Except Fault Layout :=
  let cursor := layout.cursor
  let opensWord := endsWord rest
  if character == '%' && cursor.column == 0 then do
    let layout ← layout.outsideBlocks
    let (read, cursor) ← Yaml.directive cursor
    return { layout.push (.directive read) with cursor := cursor }
  else if cursor.column == 0 && cursor.isSeparator then do
    return (← layout.outsideBlocks).take 3
      (if character == '-' then .documentStart else .documentEnd)
  else if character == '[' then layout.openBracket .openSequence
  else if character == '\x7b' then layout.openBracket .openMapping
  else if character == ']' then layout.closeBracket .closeSequence
  else if character == '\x7d' then layout.closeBracket .closeMapping
  else if character == ',' then do
    return (← (layout.allow true).dropStart).take 1 .separator
  else if character == '-' && opensWord then layout.entryToken
  else if character == '?' && (layout.inFlow || opensWord) then layout.keyToken
  else if character == ':' && (layout.inFlow || opensWord) then layout.valueToken
  else if character == '*' then
    layout.part ((anchorName cursor).map fun (name, after) => (.alias name, after))
  else if character == '&' then
    layout.part ((anchorName cursor).map fun (name, after) => (.anchor name, after))
  else if character == '!' then
    layout.part ((writtenTag cursor).map fun (tag, after) => (.tag tag, after))
  else if (character == '|' || character == '>') && !layout.inFlow then
    layout.blockToken limit (character == '>')
  else if character == '\'' || character == '"' then
    layout.part ((quotedScalar limit cursor).map fun (text, after) => (.scalar text false, after))
  else if beginsPlain layout.inFlow (character :: rest) then layout.plainToken limit
  else .error (.malformed "found a character that cannot start any token")

/-- Cut a text into tokens from a layout on. Every step takes at least one character, so that the
fuel also bounds the number of characters to come. -/
def finish : (fuel : Nat) → Layout → Layout × Option Fault
  | 0, layout => (layout, none)
  | fuel + 1, layout =>
      let layout := layout.skipToToken (fuel + 1)
      match layout.dropStale with
      | .error fault => (layout, some fault)
      | .ok layout =>
          let layout := layout.unwind layout.cursor.column
          match layout.cursor.rest with
          | [] =>
              match layout.outsideBlocks with
              | .ok layout => (layout, none)
              | .error fault => (layout, some fault)
          | character :: rest =>
              match layout.token (fuel + 1) character rest with
              | .ok layout => finish fuel layout
              | .error fault => (layout, some fault)

/-- The tokens of a recognised key, which may open a mapping. -/
def keyTokens (opens : Bool) : List Token :=
  if opens then [.blockMapping, .key] else [.key]

/-- Put the tokens of keys before the tokens that begin them, counted from `position`; the keys are
in the order of their tokens. -/
def withKeys : (keys : List (Nat × Bool)) → (position : Nat) → List Token → List Token
  | [], _, tokens => tokens
  | _, _, [] => []
  | (place, opens) :: keys, position, token :: rest =>
      if place == position then
        keyTokens opens ++ token :: withKeys keys (position + 1) rest
      else token :: withKeys ((place, opens) :: keys) (position + 1) rest

/-- Put a key before those that begin at no earlier token. -/
def insertKey (key : Nat × Bool) : List (Nat × Bool) → List (Nat × Bool)
  | [] => [key]
  | first :: rest =>
      if key.1 ≤ first.1 then key :: first :: rest else first :: insertKey key rest

/-- All tokens of a layout in order, those of its keys included. -/
def allTokens (layout : Layout) : List Token :=
  withKeys (layout.keys.foldl (fun sorted key => insertKey key sorted) []) 0 layout.tokens.reverse

end Layout

/-- Whether a character may occur in a text. -/
def isPrintable (character : Char) : Bool :=
  let code := character.toNat
  code == 0x09 || code == 0x0A || code == 0x0D || (0x20 ≤ code && code ≤ 0x7E) || code == 0x85
    || (0xA0 ≤ code && code ≤ 0xFFFD) || 0x10000 ≤ code

/-- The tokens of a text, and the fault that ends them if there is one. A byte order mark at the
start does not count. -/
def tokens (text : Text) : List Token × Option Fault :=
  if !text.all isPrintable then ([], some (.malformed "special characters are not allowed"))
  else
    let start := Layout.start text
    let start :=
      if start.cursor.isAt '\ufeff' then { start with cursor := start.cursor.next } else start
    let (layout, fault) := start.finish text.length.succ
    (layout.allTokens, fault)

end DocBinder.Yaml
