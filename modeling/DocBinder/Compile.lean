import DocBinder.Docs.Request
import DocBinder.Log
import DocBinder.Markdown.Block

/-!
# Compiling blocks

Blocks become requests that each append to the end of the body, so that their order is all the
addressing there is before the service has applied them. What needs positions, the styles of texts
and the contents of tables, is kept as a directive or a table specification that names the request
which inserts it. Beside each request stands the length of the text that the requests before it
insert.
-/

namespace DocBinder

/-- What a directive formats. -/
inductive DirectiveKind where
  | heading (level : Option Int)
  | code (language : Option Text)
  | paragraph
  | list (ordered : Bool)
deriving DecidableEq, Repr, Inhabited

/-- The name of a kind of directive. -/
def DirectiveKind.name : DirectiveKind → String
  | .heading _ => "heading"
  | .code _ => "code_block"
  | .paragraph => "paragraph"
  | .list _ => "list"

/-- Formatting that waits until positions are known: of the text `literal`, which the request
numbered `request` inserts, after the line `label` where there is one, and before `trailing`. -/
structure Directive where
  kind : DirectiveKind
  literal : Text
  request : Nat
  label : Option Text
  spans : List Span
  trailing : Text
deriving DecidableEq, Repr, Inhabited

/-- The contents of the table that the request numbered `request` inserts empty. -/
structure TableSpec where
  grid : Grid
  request : Nat
deriving DecidableEq, Repr, Inhabited

/-- What the blocks of a document come to. -/
structure Compiled where
  requests : List Docs.Request
  directives : List Directive
  tables : List TableSpec
  offsets : List Nat
  skipped : List Block
deriving Repr, Inhabited

namespace Compiled

/-- What no blocks come to. -/
def empty : Compiled :=
  ⟨[], [], [], [], []⟩

end Compiled

/-- What one block comes to when its request is numbered `request`: the request, and the directive
or the table specification that goes with it. -/
structure Contribution where
  request : Docs.Request
  directive : Option Directive
  table : Option TableSpec
deriving Repr, Inhabited

/-- Text that goes to the end of the body. -/
def appendText (text : Text) : Docs.Request :=
  .insertText text .bodyEnd

/-- What stands before an entry of a list: its number, or a bullet. -/
def itemMark (ordered : Bool) (number : Nat) : Text :=
  if ordered then (toString number).toList ++ ['.', ' '] else ['•', ' ']

/-- The lines of a list's entries, numbered from `number`, and their spans when the first line
begins at `offset`. -/
def listLines (ordered : Bool) (number offset : Nat) : List StyledText → List Text × List Span
  | [] => ([], [])
  | item :: rest =>
      let mark := itemMark ordered number
      let line := mark ++ item.text
      let (lines, spans) := listLines ordered (number + 1) (offset + line.length + 1) rest
      (line :: lines, item.spans.map (·.shift (offset + mark.length)) ++ spans)

/-- The line above a code block that names its language. -/
def codeLabel? (language : Option Text) : Option Text :=
  match language with
  | some (character :: name) => some ('[' :: character :: name ++ [']'])
  | _ => none

namespace Block

/-- What a block comes to as the request numbered `request`; a diagram without a token comes to
nothing. -/
def contribution? (request : Nat) : Block → Option Contribution
  | .heading _ level text =>
      let directive : Directive := ⟨.heading (some level), text, request, none, [], ['\n', '\n']⟩
      some ⟨appendText (text ++ ['\n', '\n']), if text.isEmpty then none else some directive, none⟩
  | .code _ language text =>
      let label := codeLabel? language
      let above := (label.map (· ++ ['\n'])).getD []
      let directive : Directive := ⟨.code language, text, request, label, [], ['\n', '\n']⟩
      some ⟨appendText (above ++ text ++ ['\n', '\n']),
        if text.isEmpty && label.isNone then none else some directive, none⟩
  | .list _ ordered items =>
      let (lines, spans) := listLines ordered 1 0 items
      let text := Text.joinLines lines
      let directive : Directive := ⟨.list ordered, text, request, none, spans, ['\n', '\n']⟩
      some ⟨appendText (text ++ ['\n', '\n']), if spans.isEmpty then none else some directive, none⟩
  | .table _ grid =>
      some ⟨.insertTable grid.rowCount grid.columnCount .bodyEnd, none, some ⟨grid, request⟩⟩
  | .paragraph _ content =>
      let directive : Directive := ⟨.paragraph, content.text, request, none, content.spans, ['\n']⟩
      some ⟨appendText (content.text ++ ['\n']),
        if content.spans.isEmpty then none else some directive, none⟩
  | .placeholder _ token => some ⟨appendText (token ++ ['\n']), none, none⟩
  | .diagram .. => none

/-- The report of a block that is dropped. -/
def dropNote? : Block → Option Log.Line
  | .diagram _ language text =>
      let name := (language.map String.ofList).getD "None"
      some ⟨.warning, .compiler,
        s!"Dropping unrendered '{name}' diagram ({Text.countLines text} line(s)); "
          ++ "no placeholder was produced for it"⟩
  | _ => none

end Block

/-- Compile blocks whose first request is numbered `request` and comes after `offset` characters
of text. -/
def compileFrom (request offset : Nat) : List Block → Compiled
  | [] => Compiled.empty
  | block :: rest =>
      match block.contribution? request with
      | some contribution =>
          let following :=
            compileFrom (request + 1) (offset + contribution.request.insertedText.length) rest
          { requests := contribution.request :: following.requests
            directives := contribution.directive.toList ++ following.directives
            tables := contribution.table.toList ++ following.tables
            offsets := offset :: following.offsets
            skipped := following.skipped }
      | none =>
          let following := compileFrom request offset rest
          { following with skipped := block :: following.skipped }

/-- Compile the blocks of a document. -/
def compile (blocks : List Block) : Compiled :=
  compileFrom 0 0 blocks

/-- What is reported while blocks are compiled. -/
def compileLog (blocks : List Block) : List Log.Line :=
  let compiled := compile blocks
  blocks.filterMap Block.dropNote?
    ++ [⟨.debug, .compiler,
      s!"Compiled {blocks.length} block(s) into {compiled.requests.length} request(s), "
        ++ s!"{compiled.directives.length} directive(s), {compiled.tables.length} table(s)"⟩]

end DocBinder
