import DocBinder.Text.Utf8
import DocBinder.Yaml.Cursor
import DocBinder.Yaml.Fault
import DocBinder.Json.Reader

/-!
# Properties of nodes and directives

A node may have an anchor, by which an alias refers to it, and a tag, which names its type. A tag is
written in full or with a handle, which a directive gives a meaning.
-/

namespace DocBinder.Yaml

/-- Whether a character can stand in the name of an anchor, a handle or a directive. -/
def isNameChar (character : Char) : Bool :=
  character.isAlphanum || character == '-' || character == '_'

/-- Whether a character can stand in a tag. -/
def isTagChar (character : Char) : Bool :=
  character.isAlphanum || "-;/?:@&=+$,_.!~*'()[]%".toList.contains character

/-- Whether a character can stand directly after a name. -/
def canFollowName (character : Char) : Bool :=
  isGap character || "?:,]\x7d%@`".toList.contains character

/-- The name of an anchor or an alias after its mark, and the place after it. -/
def anchorName (cursor : Cursor) : Except Fault (String × Cursor) :=
  let (name, after) := cursor.next.span isNameChar
  if name.isEmpty then .error (.malformed "expected alphabetic or numeric character")
  else if !after.peek?.all canFollowName then
    .error (.malformed "expected alphabetic or numeric character")
  else .ok (String.ofList name, after)

/-- The bytes of a run of escapes of two hexadecimal digits each, and the place after them. -/
def escapedBytes : (fuel : Nat) → Cursor → Except Fault (List UInt8 × Cursor)
  | 0, cursor => .ok ([], cursor)
  | fuel + 1, cursor =>
      match cursor.rest with
      | '%' :: high :: low :: _ =>
          match Json.hexNumber? [high, low] with
          | some byte => do
              let (more, after) ← escapedBytes fuel (cursor.skip 3)
              return (UInt8.ofNat byte :: more, after)
          | none => .error (.malformed "expected 2 hexadecimal digits in a tag")
      | '%' :: _ => .error (.malformed "expected 2 hexadecimal digits in a tag")
      | _ => .ok ([], cursor)

/-- The text of a tag from a place on, and the place after it. -/
def tagText : (fuel : Nat) → Cursor → Except Fault (Text × Cursor)
  | 0, cursor => .ok ([], cursor)
  | fuel + 1, cursor =>
      match cursor.rest with
      | [] => .ok ([], cursor)
      | character :: _ =>
          if character == '%' then do
            let (bytes, after) ← escapedBytes cursor.rest.length cursor
            match Text.decodeUtf8 bytes with
            | .error _ => .error (.malformed "expected UTF-8 in a tag")
            | .ok text =>
                let (more, after) ← tagText fuel after
                return (text ++ more, after)
          else if isTagChar character then do
            let (more, after) ← tagText fuel cursor.next
            return (character :: more, after)
          else .ok ([], cursor)

/-- The text of a tag, which must not be empty, and the place after it. -/
def tagTextAt (cursor : Cursor) : Except Fault (Text × Cursor) := do
  let (text, after) ← tagText cursor.rest.length.succ cursor
  if after.index == cursor.index then .error (.malformed "expected a tag") else return (text, after)

/-- A handle of tags and the place after it: an exclamation mark, or a name between two. -/
def tagHandle (cursor : Cursor) : Except Fault (Text × Cursor) :=
  if !cursor.isAt '!' then .error (.malformed "expected an exclamation mark")
  else
    let (name, after) := cursor.next.span isNameChar
    if after.isAt '!' then .ok ('!' :: name ++ ['!'], after.next)
    else if name.isEmpty && after.isAt ' ' then .ok (['!'], after)
    else .error (.malformed "expected an exclamation mark")

/-- A tag as it is written. -/
structure WrittenTag where
  handle : Option Text
  suffix : Text
deriving DecidableEq, Repr, Inhabited

/-- A tag and the place after it. -/
def writtenTag (cursor : Cursor) : Except Fault (WrittenTag × Cursor) := do
  let (tag, after) ← match cursor.rest.drop 1 with
    | '<' :: _ => do
        let (suffix, after) ← tagTextAt (cursor.skip 2)
        if after.isAt '>' then pure ((⟨none, suffix⟩ : WrittenTag), after.next)
        else .error (.malformed "expected a closing angle bracket")
    | rest =>
        if endsWord rest then pure ((⟨none, ['!']⟩ : WrittenTag), cursor.next)
        else do
          let word := rest.takeWhile fun character => !(character == ' ' || isBreak character)
          let (handle, after) ←
            if word.contains '!' then tagHandle cursor else pure (['!'], cursor.next)
          let (suffix, after) ← tagTextAt after
          pure ((⟨some handle, suffix⟩ : WrittenTag), after)
  if endsField after.rest then return (tag, after)
  else .error (.malformed "expected a blank after a tag")

/-- What a directive says. -/
inductive Directive where
  | version (major minor : Nat)
  | tag (handle meaning : Text)
  | other (name : Text)
deriving DecidableEq, Repr, Inhabited

/-- A number of a version and the place after it. -/
def versionNumber (cursor : Cursor) : Except Fault (Nat × Cursor) :=
  let (digits, after) := cursor.span Char.isDigit
  if digits.isEmpty then .error (.malformed "expected a digit")
  else .ok (Json.decimalNumber digits, after)

/-- The version after the name of its directive, and the place after it. -/
def versionDirective (cursor : Cursor) : Except Fault (Directive × Cursor) := do
  let (major, after) ← versionNumber cursor.skipBlanks
  if !after.isAt '.' then .error (.malformed "expected a digit or a point") else
  let (minor, after) ← versionNumber after.next
  if endsField after.rest then return (.version major minor, after)
  else .error (.malformed "expected a digit or a blank")

/-- The handle and its meaning after the name of their directive, and the place after them. -/
def tagDirective (cursor : Cursor) : Except Fault (Directive × Cursor) := do
  let (handle, after) ← tagHandle cursor.skipBlanks
  if !after.isAt ' ' then .error (.malformed "expected a blank") else
  let (meaning, after) ← tagTextAt after.skipBlanks
  if endsField after.rest then return (.tag handle meaning, after)
  else .error (.malformed "expected a blank")

/-- A directive with its line, and the place after it. -/
def directive (cursor : Cursor) : Except Fault (Directive × Cursor) := do
  let (name, after) := cursor.next.span isNameChar
  if name.isEmpty || !endsField after.rest then
    .error (.malformed "expected the name of a directive")
  else
    let (read, after) ← if name == "YAML".toList then versionDirective after
      else if name == "TAG".toList then tagDirective after
      else pure (Directive.other name, after.skipLine)
    match after.skipIgnored? with
    | some after => return (read, after)
    | none => .error (.malformed "expected a comment or a line break")

end DocBinder.Yaml
