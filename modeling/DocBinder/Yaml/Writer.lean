import DocBinder.Yaml.Page
import DocBinder.Yaml.Typed

/-!
# Writing YAML

Values as YAML in block form. A string is written plainly where it reads back as itself, else in
single quotes, and in double quotes where it holds what single quotes cannot. Lines are broken at
blanks past the column of the page's width. Items of a sequence stand at the indentation of its key.
-/

namespace DocBinder.Yaml

/-! ## The style of a string -/

/-- Whether a character ends a line of a string that is written in single quotes. -/
def isKeptBreak (character : Char) : Bool :=
  isBreak character && character != '\r'

/-- Whether a text has ended or goes on with white space or a null character. -/
def endsToken : Text → Bool
  | [] => true
  | character :: _ => isGap character || character == '\x00'

/-- Whether a character can only be written as an escape. -/
def isSpecial (character : Char) : Bool :=
  let code := character.toNat
  !(character == '\n' || (0x20 ≤ code && code ≤ 0x7E)
    || ((code == 0x85 || (0xA0 ≤ code && code ≤ 0xFFFD) || (0x10000 ≤ code && code < 0x10FFFF))
      && character != '\ufeff'))

/-- Whether a text cannot begin a plain scalar. -/
def beginsMarked : Text → Bool
  | [] => false
  | character :: rest =>
      "#,[]\x7b\x7d&*!|>'\"%@`".toList.contains character
        || ((character == '?' || character == ':' || character == '-') && endsToken rest)

/-- Whether a text after `before` holds what ends a plain scalar: a colon before white space, or a
number sign after it. -/
def holdsMark (before : Char) : Text → Bool
  | [] => false
  | character :: rest =>
      (character == ':' && endsToken rest) || (character == '#' && endsToken [before])
        || holdsMark character rest

/-- Whether two neighbours in a text are of two kinds. -/
def hasNeighbours (first second : Char → Bool) : Text → Bool
  | left :: right :: rest =>
      (first left && second right) || hasNeighbours first second (right :: rest)
  | _ => false

/-- Whether a string has several lines. -/
def isMultiline (text : Text) : Bool :=
  text.any isKeptBreak

/-- Whether a string can be written plainly outside brackets, its type apart. -/
def allowsPlain (text : Text) : Bool :=
  let isEdge (character : Char) : Bool := character == ' ' || isKeptBreak character
  !(Text.startsWith text "---".toList || Text.startsWith text "...".toList || beginsMarked text
    || (match text with
      | [] => false
      | first :: rest => holdsMark first rest)
    || text.any isSpecial || text.head?.any isEdge || text.getLast?.any isEdge || isMultiline text)

/-- Whether a string can be written in single quotes: blanks at the start or end of an inner line
would be lost. -/
def allowsQuotes (text : Text) : Bool :=
  !(text.any isSpecial || hasNeighbours (· == ' ') isKeptBreak text
    || hasNeighbours isKeptBreak (· == ' ') text)

/-- How a string is written. -/
inductive Style where
  | plain
  | single
  | double
deriving DecidableEq, Repr, Inhabited

/-- How a string is written; a key on the line of its value has no line ends. -/
def styleOf (text : Text) (isKey : Bool) : Style :=
  if kindOfPlain text == .string && allowsPlain text then .plain
  else if allowsQuotes text && !(isKey && isMultiline text) then .single
  else .double

/-! ## Writing strings -/

/-- A run of characters of one kind. -/
inductive Piece where
  | word (text : Text)
  | blanks (count : Nat)
  | breaks (text : Text)
deriving DecidableEq, Repr, Inhabited

/-- Put a character before runs of characters. -/
def Piece.cons (character : Char) (pieces : List Piece) : List Piece :=
  if character == ' ' then
    match pieces with
    | .blanks count :: rest => .blanks (count + 1) :: rest
    | pieces => .blanks 1 :: pieces
  else if isKeptBreak character then
    match pieces with
    | .breaks text :: rest => .breaks (character :: text) :: rest
    | pieces => .breaks [character] :: pieces
  else
    match pieces with
    | .word text :: rest => .word (character :: text) :: rest
    | pieces => .word [character] :: pieces

/-- The runs of a text. -/
def Piece.ofText (text : Text) : List Piece :=
  text.foldr Piece.cons []

/-- Write the runs of a plain string. -/
def putPlain (column : Nat) (mayBreak : Bool) (page : Page) : List Piece → Page
  | [] => page
  | .blanks count :: rest =>
      let page := if count == 1 && Page.width < page.column && mayBreak then
          (page.indent column).afterWord
        else page.put (List.replicate count ' ')
      putPlain column mayBreak page rest
  | .word text :: rest => putPlain column mayBreak (page.put text) rest
  | .breaks text :: rest => putPlain column mayBreak (page.put text) rest

/-- A word in single quotes, where a quotation mark is written twice. -/
def doubleQuotes (text : Text) : Text :=
  text.flatMap fun character => if character == '\'' then ['\'', '\''] else [character]

/-- Write line ends inside single quotes: a line feed first is written once more. -/
def putBreaks (column : Nat) (page : Page) (breaks : Text) : Page :=
  let page := if breaks.head? == some '\n' then page.endLine '\n' else page
  (breaks.foldl Page.endLine page).indent column

/-- Write the runs of a string in single quotes. -/
def putSingle (column : Nat) (mayBreak : Bool) (isFirst : Bool) (page : Page) : List Piece → Page
  | [] => page
  | .blanks count :: rest =>
      let breaks := count == 1 && Page.width < page.column && mayBreak && !isFirst && !rest.isEmpty
      putSingle column mayBreak false
        (if breaks then page.indent column else page.put (List.replicate count ' ')) rest
  | .word text :: rest => putSingle column mayBreak false (page.put (doubleQuotes text)) rest
  | .breaks text :: rest => putSingle column mayBreak false (putBreaks column page text) rest

/-- The escapes of one letter. -/
def letterEscapes : List (Char × Char) :=
  [('\x00', '0'), ('\x07', 'a'), ('\x08', 'b'), ('\t', 't'), ('\n', 'n'), ('\x0b', 'v'),
    ('\x0c', 'f'), ('\r', 'r'), ('\x1b', 'e'), ('"', '"'), ('\\', '\\'), ('\u0085', 'N'),
    ('\u00a0', '_'), ('\u2028', 'L'), ('\u2029', 'P')]

/-- Whether a character is written as an escape in double quotes. -/
def isEscaped (character : Char) : Bool :=
  let code := character.toNat
  character == '"' || character == '\\' || isKeptBreak character || character == '\ufeff'
    || !((0x20 ≤ code && code ≤ 0x7E) || (0xA0 ≤ code && code ≤ 0xFFFD))

/-- The escape of a character. -/
def escapeOf (character : Char) : Text :=
  let code := character.toNat
  let digits (count : Nat) : Text := (hexDigits count code).map Char.toUpper
  match letterEscapes.lookup character with
  | some letter => ['\\', letter]
  | none =>
      if code ≤ 0xFF then '\\' :: 'x' :: digits 2
      else if code ≤ 0xFFFF then '\\' :: 'u' :: digits 4
      else '\\' :: 'U' :: digits 8

/-- Write a string in double quotes, where `pending` is to be written before it. A line is broken
before a blank or an escape, or after an escape, by a backslash; a blank that begins the next line
has one before it. -/
def putDouble (column : Nat) (mayBreak isFirst : Bool) (pending : Text) (page : Page) : Text → Page
  | [] => page.put pending
  | character :: rest =>
      let escaped := isEscaped character
      let page := if escaped then (page.put pending).put (escapeOf character) else page
      let pending := if escaped then [] else pending
      let reached := if escaped then page.column - 1 else page.column + pending.length
      let next := if escaped then rest.head? else some character
      let breaks := mayBreak && !isFirst && !rest.isEmpty && Page.width < reached
        && (character == ' ' || escaped || pending.isEmpty)
      let page := if breaks then
          let page := (((page.put pending).put ['\\']).indent column).afterWord
          if next == some ' ' then page.put ['\\'] else page
        else page
      let pending := if breaks then [] else pending
      putDouble column mayBreak false (if escaped then [] else pending ++ [character]) page rest

/-- Write a string in a style, with its further lines at a column. -/
def putString (column : Nat) (isKey : Bool) (text : Text) (page : Page) : Page :=
  match styleOf text isKey with
  | .plain =>
      let page := if page.isSpaced then page else page.put [' ']
      putPlain column (!isKey) page.afterWord (Piece.ofText text)
  | .single =>
      (putSingle column (!isKey) true (page.mark ['\''] true false) (Piece.ofText text)).mark
        ['\''] false false
  | .double =>
      (putDouble column (!isKey) true [] (page.mark ['"'] true false) text).mark ['"'] false false

/-! ## Writing values -/

/-- A number with a point, as YAML reads it back. -/
def decimalText (number : Float) : String :=
  let text := Decimal.floatText number
  if text == "nan" then ".nan"
  else if text == "inf" then ".inf"
  else if text == "-inf" then "-.inf"
  else if text.any (· == '.') then text
  else text.replace "e" ".0e"

/-- The text of a value that is neither a string nor a collection. -/
def plainText : Value → String
  | .null => "null"
  | .bool value => if value then "true" else "false"
  | .float number => decimalText number
  | value => value.text

/-- Whether a key is written on the line of its value: a short string on one line. -/
def isSimpleKey : Value → Bool
  | .str text => !text.isEmpty && !isMultiline text.toList && text.length + 5 < 128
  | value => (plainText value).length < 120

/-- The column of further lines of what is written at an indentation. -/
def furtherColumn (indent : Option Nat) : Nat :=
  (indent.map (· + 2)).getD 2

/-- The indentation of a collection inside one. -/
def innerIndent (indent : Option Nat) : Nat :=
  (indent.map (· + 2)).getD 0

/-- Write the key of an entry, whose own text `put` writes where it is not a simple string, up to the
mark between key and value. -/
def putKey (column : Nat) (key : Value) (put : Page → Page) (page : Page) : Page :=
  let page := page.indent column
  if isSimpleKey key then
    match key with
    | .str text => (putString (column + 2) true text.toList page).mark [':'] false false
    | _ => (put page).mark [':'] false false
  else ((put (page.mark ['?'] true true)).indent column).mark [':'] true true

mutual

/-- Write a value inside a collection of an indentation. -/
def putValue (indent : Option Nat) (inMapping : Bool) (page : Page) : Value → Page
  | .str text => putString (furtherColumn indent) false text.toList page
  | .list [] => (page.mark ['['] true false).put [']']
  | .list (first :: rest) =>
      let column := if inMapping && !page.isIndented then indent.getD 0 else innerIndent indent
      putItems column page (first :: rest)
  | .map [] => (page.mark ['\x7b'] true false).put ['\x7d']
  | .map (first :: rest) => putEntries (innerIndent indent) page (first :: rest)
  | value =>
      ((if page.isSpaced then page else page.put [' ']).put (plainText value).toList).afterWord

/-- Write the items of a sequence. -/
def putItems (column : Nat) (page : Page) : List Value → Page
  | [] => page
  | item :: rest =>
      let page := (page.indent column).mark ['-'] true true
      putItems column (putValue (some column) false page item) rest

/-- Write the entries of a mapping. -/
def putEntries (column : Nat) (page : Page) : List (Value × Value) → Page
  | [] => page
  | (key, value) :: rest =>
      let page := putKey column key (fun page => putValue (some column) true page key) page
      putEntries column (putValue (some column) true page value) rest

end

/-- A value as a YAML text. -/
def write (value : Value) : Text :=
  ((putValue none false Page.blank value).indent 0).text

end DocBinder.Yaml
