import DocBinder.Markdown.Span
import DocBinder.Value.Basic

/-!
# Text styles

The styles a document is formatted with. A style is an ordered record of attributes; the order is
the one in which a request names the attributes it sets.
-/

namespace DocBinder.Docs

/-- The attributes of a text style, in order, each with its value in wire form. -/
abbrev TextStyle := List (String × Value)

/-- A color of three parts. -/
def color (red green blue : Value) : Value :=
  .record
    [("color", .record [("rgbColor", .record [("red", red), ("green", green), ("blue", blue)])])]

/-- A gray of equal parts. -/
def gray (part : Value) : Value :=
  color part part part

/-- A size in points. -/
def points (size : Value) : Value :=
  .record [("magnitude", size), ("unit", .str "PT")]

/-- The size of headings by level; a level without one has the size of the body. -/
def headingSize : Int → Int
  | 1 => 20
  | 2 => 18
  | 3 => 16
  | 4 => 14
  | 5 => 12
  | _ => 11

/-- The size of the body text. -/
def bodySize : Int := 11

namespace TextStyle

/-- The attribute names, as a request lists them. -/
def mask (style : TextStyle) : String :=
  ",".intercalate (style.map (·.1))

/-- Headings are bold and black, in a size of their level. -/
def heading (level : Int) : TextStyle :=
  [("bold", .bool true), ("fontSize", points (.int (headingSize level))),
    ("foregroundColor", gray (.int 0))]

/-- The language above a code block is small, bold and gray. -/
def codeLabel : TextStyle :=
  [("bold", .bool true), ("fontSize", points (.int 9)), ("foregroundColor", gray (.float 0.5)),
    ("backgroundColor", gray (.int 1))]

/-- Code is dark gray on a light ground. -/
def codeContent : TextStyle :=
  [("bold", .bool false), ("italic", .bool false), ("fontSize", points (.int 10)),
    ("foregroundColor", gray (.float 0.2)), ("backgroundColor", gray (.float 0.95))]

/-- A paragraph is reset to plain black text before its spans are styled. -/
def plain : TextStyle :=
  [("foregroundColor", gray (.int 0)), ("bold", .bool false), ("italic", .bool false),
    ("fontSize", points (.int bodySize))]

/-- Code inside a line is red on a light ground. -/
def inlineCode : TextStyle :=
  [("backgroundColor", gray (.float 0.95)),
    ("foregroundColor", color (.float 0.8) (.float 0.1) (.float 0.1))]

/-- A link is underlined and blue. -/
def link (url : String) : TextStyle :=
  [("link", .record [("url", .str url)]), ("underline", .bool true),
    ("foregroundColor", color (.float 0.06) (.float 0.33) (.float 0.8))]

/-- The style of a span. -/
def ofSpan : SpanStyle → TextStyle
  | .bold => [("bold", .bool true)]
  | .italic => [("italic", .bool true)]
  | .code => inlineCode

end TextStyle

end DocBinder.Docs
