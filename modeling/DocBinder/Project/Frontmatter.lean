import DocBinder.Yaml.Reader

/-!
# Front matter

Metadata in front of a Markdown document: a YAML mapping between two lines of three hyphens. Blanks
may follow the hyphens, and since line feeds are blanks, blank lines around either line belong to
it.
-/

namespace DocBinder.Project

open Text

/-- A document without its front matter, and the entries of the front matter. -/
structure Frontmatter where
  entries : List (Value × Value)
  body : Text
deriving Repr, Inhabited

namespace Frontmatter

/-- The line that opens and closes front matter, without what may follow it. -/
def fence : Text :=
  ['-', '-', '-']

/-- The texts after the line feeds among the blanks that a text begins with, the last one first. -/
def blockStarts : Text → List Text
  | [] => []
  | character :: rest =>
      if isBlank character then
        blockStarts rest ++ if character == '\n' then [rest] else []
      else []

/-- The body after the hyphens of a closing line: what follows the last line feed among the blanks
there. Blanks that reach the end of the text leave no body. -/
def bodyAfter? (text : Text) : Option Text :=
  if text.all isBlank then some [] else (blockStarts text).head?

/-- The text before the first closing line, and the body after it. -/
def closing? : Text → Option (Text × Text)
  | [] => none
  | character :: rest =>
      match (drop? ('\n' :: fence) (character :: rest)).bind bodyAfter? with
      | some body => some ([], body)
      | none => (closing? rest).map fun (block, body) => (character :: block, body)

/-- The text of the front matter and the body of a document that has front matter. -/
def split? (text : Text) : Option (Text × Text) := do
  (blockStarts (← drop? fence text)).findSome? closing?

/-- The depth that values in front matter may have. -/
def maxDepth : Int := 10

/-- Whether a value has parts deeper than a limit. -/
def isDeeper (limit : Int) (value : Value) : Bool :=
  limit < 0 || match value with
    | .list items => items.attach.any fun ⟨item, _⟩ => isDeeper (limit - 1) item
    | .map entries => entries.attach.any fun ⟨(_, item), _⟩ => isDeeper (limit - 1) item
    | _ => false
termination_by sizeOf value
decreasing_by
  · have := List.sizeOf_lt_of_mem (by assumption)
    simp only [Value.list.sizeOf_spec]
    omega
  · have := List.sizeOf_lt_of_mem (by assumption)
    simp only [Prod.mk.sizeOf_spec, Value.map.sizeOf_spec] at this ⊢
    omega

/-- What is said of values that are too deep. -/
def tooDeep (limit : Int) : String :=
  s!"YAML structure exceeds maximum depth of {limit}"

/-- Refuse a value with parts deeper than a limit. -/
def checkDepth (limit : Int) (value : Value) : Except Failure Unit :=
  if isDeeper limit value then .error (.badValue (tooDeep limit)) else .ok ()

/-- The front matter that a block of YAML holds, before a body. -/
def ofBlock (path : String) (block body : Text) : Except Failure Frontmatter :=
  let refused (note : String) : Except Failure Frontmatter :=
    .error (.of (.frontmatter path note))
  match Yaml.read block with
  | .error (.malformed note) => refused s!"Invalid YAML syntax: {note}"
  | .error (.unusable failure) => .error failure
  | .ok content =>
      match content.value with
      | .null => .ok ⟨[], body⟩
      | .map entries =>
          if content.isEndless || isDeeper maxDepth (.map entries) then refused (tooDeep maxDepth)
          else .ok ⟨entries, body⟩
      | value => refused s!"Frontmatter must be a YAML dictionary, got {value.typeName}"

/-- Take the front matter off a document. A document without front matter is all body. -/
def ofText (path : String) (text : Text) : Except Failure Frontmatter :=
  match split? text with
  | none => .ok ⟨[], text⟩
  | some (block, body) => ofBlock path block body

end Frontmatter

end DocBinder.Project
