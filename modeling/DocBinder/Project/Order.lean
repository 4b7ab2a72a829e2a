import DocBinder.Project.SourceFile

/-!
# The order of files

Files are ordered by the directories that lead to them, then by the position that their front matter
gives, then by name. A position that is no number comes last. Positions are compared by size,
whatever their type, and a position that is no number among the floating-point numbers is neither
before nor after any other, so that the order is total only without it. Sorting is therefore pinned
down step by step: a run at the beginning is kept, and each further file is put in its place by
halving.
-/

namespace DocBinder.Project

/-- What files are ordered by. -/
structure OrderKey where
  parents : List String
  position : Decimal.Binary
  name : String
deriving DecidableEq, Repr, Inhabited

namespace OrderKey

/-- The key of a file with a path and front matter. -/
def of (path : String) (frontmatter : List (Value × Value)) : OrderKey :=
  let position := (Value.lookup "sidebar_position" frontmatter).bind Value.number?
  ⟨Path.parentSteps path, position.getD (.infinite false), Path.name path⟩

/-- Whether two positions count as the same one. -/
def samePosition (first second : Decimal.Binary) : Bool :=
  first == second || first.eq second

/-- Whether a key comes before another. -/
def before (first second : OrderKey) : Bool :=
  if first.parents != second.parents then first.parents < second.parents
  else if !samePosition first.position second.position then first.position.lt second.position
  else first.name < second.name

end OrderKey

section Sorting

variable {α : Type} (before : α → α → Bool)

/-- The items at the head that go on in one direction after an item: downward, each strictly before
the last one, or else upward. -/
def runAfter (downward : Bool) (last : α) : List α → List α × List α
  | [] => ([], [])
  | item :: rest =>
      if before item last == downward then
        let (run, rest) := runAfter downward item rest
        (item :: run, rest)
      else ([], item :: rest)

/-- The run that a list begins with, turned upward, and what follows it. -/
def headRun : List α → List α × List α
  | [] => ([], [])
  | [item] => ([item], [])
  | first :: second :: rest =>
      let downward := before second first
      let (run, rest) := runAfter before downward first (second :: rest)
      (if downward then (first :: run).reverse else first :: run, rest)

/-- The place among sorted items, between two places, at which an item comes after all that it is
not before. -/
def placeBetween (sorted : Array α) (item : α) (low high : Nat) : Nat :=
  if _h : low < high then
    let middle := low + (high - low) / 2
    match sorted[middle]? with
    | none => low
    | some other =>
        if before item other then placeBetween sorted item low middle
        else placeBetween sorted item (middle + 1) high
  else low
termination_by high - low

/-- Put an item among sorted ones. -/
def insertSorted (sorted : List α) (item : α) : List α :=
  let place := placeBetween before sorted.toArray item 0 sorted.length
  sorted.take place ++ item :: sorted.drop place

/-- Sort items; those of which neither comes before the other keep their order. -/
def sortItems (items : List α) : List α :=
  let (run, rest) := headRun before items
  rest.foldl (insertSorted before) run

end Sorting

/-- Sort items by the keys of their files. -/
def sortByKey {α : Type} (key : α → OrderKey) (items : List α) : List α :=
  ((sortItems (fun (first second : OrderKey × α) => first.1.before second.1)
    (items.map fun item => (key item, item))).map (·.2))

end DocBinder.Project
