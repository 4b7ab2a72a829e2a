import DocBinder.Text.Basic
import DocBinder.Text.Case

/-!
# Code fences

A fence opens with a line that begins with three backticks, after which a language may stand, and
closes with the next line that holds three backticks alone. Blanks around a line do not matter.
-/

namespace DocBinder.Markdown

/-- The three backticks of a fence. -/
def fenceMarker : Text :=
  ['`', '`', '`']

/-- Whether a line opens a fence. -/
def opensFence (line : Text) : Bool :=
  fenceMarker.isPrefixOf (Text.strip line)

/-- Whether a line closes a fence. -/
def closesFence (line : Text) : Bool :=
  Text.strip line == fenceMarker

/-- The language of an opening line. -/
def fenceLanguage? (line : Text) : Option Text :=
  match Text.strip ((Text.strip line).drop fenceMarker.length) with
  | [] => none
  | language => some language

/-- The lines up to the one that closes a fence, and that line. -/
def fenceBody? : List Text → Option (List Text × Text)
  | [] => none
  | line :: rest =>
      if closesFence line then some ([], line)
      else (fenceBody? rest).map fun (body, closing) => (line :: body, closing)

/-- The languages whose fences hold diagrams when nothing else is configured. -/
def defaultDiagramLanguages : List Text :=
  ["mermaid".toList, "plantuml".toList, "dot".toList, "graphviz".toList, "d2".toList]

/-- Whether a language, in any case, is one of the given lower-case diagram languages. -/
def isDiagram (diagramLanguages : List Text) (language : Option Text) : Bool :=
  language.any fun name => diagramLanguages.contains (Text.lower name)

end DocBinder.Markdown
