import DocBinder.Failure

/-!
# Markup

Messages mark styles by tags in brackets, which a plain terminal does not show. A tag begins with a
lower-case letter, a number sign, a slash or an at sign. A backslash before it makes it stand for
itself. A closing tag names the style that it closes, or closes the last one; it is a fault when
there is none.
-/

namespace DocBinder.Terminal

open Text

/-- A piece of a message: text, or a tag with its place in the message. -/
inductive Piece where
  | text (content : Text)
  | tag (place : Nat) (content : Text)
deriving DecidableEq, Repr, Inhabited

/-- Whether a character can begin a tag. -/
def beginsTag (character : Char) : Bool :=
  character.isLower || ['#', '/', '@'].contains character

/-- The content of a tag, given what follows its opening bracket, and the text after it. -/
def tag? (text : Text) : Option (Text × Text) :=
  match text with
  | [] => none
  | first :: rest =>
      let content := rest.takeWhile fun character => character != '[' && character != ']'
      match rest.drop content.length with
      | ']' :: after => if beginsTag first then some (first :: content, after) else none
      | _ => none

/-- Put a character before pieces. -/
def pushChar (character : Char) : List Piece → List Piece
  | .text content :: pieces => .text (character :: content) :: pieces
  | pieces => .text [character] :: pieces

/-- Put text before pieces, as a piece of its own. -/
def pushText (content : Text) (pieces : List Piece) : List Piece :=
  if content.isEmpty then pieces else .text content :: pieces

/-- Cut a message into pieces. Of the backslashes before a tag each two stand for one, and one that
is left makes the tag text. `slashes` counts the backslashes just passed, `skip` the characters
that a tag has taken. -/
def pieces (place slashes skip : Nat) : Text → List Piece
  | [] => pushText (List.replicate slashes '\\') []
  | character :: rest =>
      match skip with
      | skip + 1 => pieces (place + 1) 0 skip rest
      | 0 =>
          if character == '\\' then pieces (place + 1) (slashes + 1) 0 rest
          else
            let found := if character == '[' then tag? rest else none
            match found with
            | some (content, after) =>
                let taken := rest.length - after.length
                let following := pieces (place + 1) 0 taken rest
                let written := List.replicate (slashes / 2) '\\'
                if slashes % 2 == 1 then
                  .text written :: .text ('[' :: content ++ [']']) :: following
                else pushText written (.tag place content :: following)
            | none =>
                let following := pieces (place + 1) 0 0 rest
                (List.replicate slashes '\\').foldr pushChar (pushChar character following)

/-- A backslash before an opening bracket that begins no tag is dropped. -/
def unescape : Text → Text
  | [] => []
  | '\\' :: '[' :: rest => '[' :: unescape rest
  | character :: rest => character :: unescape rest

/-- The attributes of text by their names, in the order in which a style lists them. -/
def attributeNames : List (List String) :=
  [["bold", "b"], ["dim", "d"], ["italic", "i"], ["underline", "u"], ["blink"], ["blink2"],
    ["reverse", "r"], ["conceal", "c"], ["strike", "s"], ["underline2", "uu"], ["frame"],
    ["encircle"], ["overline", "o"]]

/-- The words of a text. -/
def words (text : Text) : List Text :=
  (text.splitBy fun first second => isBlank first == isBlank second).filter
    fun piece => !piece.all isBlank

/-- The style that a tag names, in the one form by which styles are compared: its attributes under
their first names, then what else it names. -/
def styleName (text : Text) : List String :=
  let named := (words text).map fun word => String.ofList (word.map Char.toLower)
  let attributes := attributeNames.filterMap fun names =>
    if names.any named.contains then names.head? else none
  attributes ++ named.filter fun word => !attributeNames.any (·.contains word)

/-- The name in a tag, without what follows an equals sign. -/
def tagName (content : Text) : Text :=
  content.takeWhile (· != '=')

/-- The fault of a message whose markup is wrong. -/
def markupFault (note : String) : Failure :=
  .foreign "MarkupError" note

/-- The text of pieces without tags; `opened` holds the styles that are open, the last one
first. -/
def textOf (opened : List (List String)) : List Piece → Except Failure Text
  | [] => .ok []
  | .text content :: rest => (textOf opened rest).map (unescape content ++ ·)
  | .tag place content :: rest =>
      let shown := "[" ++ String.ofList content ++ "]"
      match tagName content with
      | '/' :: name =>
          let closed := styleName name
          if (strip name).isEmpty then
            if opened.isEmpty then
              .error (markupFault s!"closing tag '[/]' at position {place} has nothing to close")
            else textOf (opened.drop 1) rest
          else if opened.contains closed then textOf (opened.erase closed) rest
          else .error (markupFault
            s!"closing tag '{shown}' at position {place} doesn't match any open tag")
      | name => textOf (styleName name :: opened) rest

/-- Whether a terminal drops a character: the bell, and the controls that move the print
position backward, down or to the start of the line. -/
def isDropped (character : Char) : Bool :=
  [0x07, 0x08, 0x0B, 0x0C, 0x0D].contains character.toNat

/-- The text that a message shows. -/
def shownText (message : Text) : Except Failure Text :=
  if message.any (· == '[') then
    (textOf [] (pieces 0 0 0 message)).map fun text => text.filter fun c => !isDropped c
  else .ok (message.filter fun character => !isDropped character)

end DocBinder.Terminal
