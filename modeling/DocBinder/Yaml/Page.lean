import DocBinder.Yaml.Cursor

/-!
# Pages

What has been written of a text, with what the next mark depends on: the column, whether a blank
goes before, and whether only indentation and marks of collections stand on the line.
-/

namespace DocBinder.Yaml

/-- A text that is being written, in reverse. -/
structure Page where
  reversed : Text
  column : Nat
  isSpaced : Bool
  isIndented : Bool
deriving Repr, Inhabited

namespace Page

/-- The page before anything is written. -/
def blank : Page :=
  ⟨[], 0, true, true⟩

/-- The text of a page. -/
def text (page : Page) : Text :=
  page.reversed.reverse

/-- The widest column at which a line is not broken. -/
def width : Nat := 80

/-- Write characters that do not end a line. -/
def put (page : Page) (characters : Text) : Page :=
  { page with
    reversed := characters.reverse ++ page.reversed, column := page.column + characters.length }

/-- Write a mark, with a blank before it where one is needed and none is there. A mark of a
collection leaves the line as indented as it was. -/
def mark (page : Page) (characters : Text) (needsBlank ofCollection : Bool) : Page :=
  let page := page.put (if page.isSpaced || !needsBlank then characters else ' ' :: characters)
  { page with isSpaced := false, isIndented := page.isIndented && ofCollection }

/-- End the line. -/
def endLine (page : Page) (lineEnd : Char) : Page :=
  ⟨lineEnd :: page.reversed, 0, true, true⟩

/-- Write blanks up to a column. -/
def pad (page : Page) (column : Nat) : Page :=
  if page.column < column then
    { page.put (List.replicate (column - page.column) ' ') with isSpaced := true }
  else page

/-- Go to a column of a new line, unless the line is only indented and not yet past it. -/
def indent (page : Page) (column : Nat) : Page :=
  let page := if !page.isIndented || column < page.column
      || (page.column == column && !page.isSpaced) then page.endLine '\n' else page
  page.pad column

/-- Note that a word has been written. -/
def afterWord (page : Page) : Page :=
  { page with isSpaced := false, isIndented := false }

end Page

end DocBinder.Yaml
