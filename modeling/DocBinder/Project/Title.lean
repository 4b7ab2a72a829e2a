import DocBinder.Files.Path
import DocBinder.Value.Literal

/-!
# Titles

The title of a Markdown document: that of its front matter, else its first heading of the first
level, else the name of its file. A heading is a number sign at the start of a line, blanks, and a
text. Line feeds are blanks, so that the text may stand on a later line.
-/

namespace DocBinder.Project

open Text

/-- The text of a heading, given what follows its number sign. When nothing but blanks follows, one
of them can still be the text, unless it is the first one or a line feed; what is left of it is
nothing. -/
def headingAfter? (text : Text) : Option Text :=
  let blanks := text.takeWhile isBlank
  let rest := text.dropWhile isBlank
  if blanks.isEmpty then none
  else if !rest.isEmpty then some (strip (rest.takeWhile (· != '\n')))
  else if (blanks.drop 1).any (· != '\n') then some []
  else none

/-- The first heading of the first level. `atStart` tells that a line begins here. -/
def headingFrom? (atStart : Bool) : Text → Option Text
  | [] => none
  | character :: rest =>
      let here := if atStart && character == '#' then headingAfter? rest else none
      here.or (headingFrom? (character == '\n') rest)

/-- The first heading of the first level, without blanks around it. -/
def heading? (text : Text) : Option Text :=
  headingFrom? true text

/-- The title of a document with front matter, body and path. -/
def titleOf (frontmatter : List (Value × Value)) (body : Text) (path : String) : String :=
  let given := (Value.lookup "title" frontmatter).getD .null
  if !given.isEmpty then given.text
  else ((heading? body).map String.ofList).getD (Path.stem path)

end DocBinder.Project
