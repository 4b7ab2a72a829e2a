import DocBinder.Proofs.Files.Listing
import DocBinder.Proofs.Files.Path
import DocBinder.Proofs.Project.Selection
import Mathlib.Data.List.Chain
import Mathlib.Data.List.Perm.Basic
import Mathlib.Data.Prod.Lex

/-!
# Scans and the order of listings

A scan finds the same files in whatever order directories are listed, and sorts them. Of two files in
different directories, or with numbers as positions, one comes before the other, and so does one of
two whose positions are not numbers; but a position that is no number and one that is are neither
before nor after each other. So files are sorted into one order, whatever the listing, exactly when no
directory holds files of both kinds. Where one does, the files that are sorted are already in order
for more than one listing, since sorting leaves a list as it is in which no item comes before the one
in front of it.
-/

namespace DocBinder.Project

/-! ## What a scan finds -/

section Scans

variable {files other : FileTree}

end Scans

/-! ## Lists that sorting leaves as they are -/

section Sorting

variable {α : Type} {before : α → α → Bool}

end Sorting

/-! ## Positions in a line -/

section Places

variable {ρ : Type} [LinearOrder ρ] (rank : Option (WithBot (WithTop ℚ)) → ρ)

/-- The place of a key in a line in which every position has a rank, be it a number or not. -/
def OrderKey.place (key : OrderKey) : Lex (List String × Lex (ρ × String)) :=
  toLex (key.parents, toLex (rank key.position.size?, key.name))

variable {rank}

variable (grows : ∀ size other : WithBot (WithTop ℚ), size < other →
  rank (some size) < rank (some other))

include grows

end Places

namespace SourceFile

/-- The position in the front matter: the size of a number, nothing where it is none of the sizes
although it has the type of a number, and the end of the line where it is missing or of another
type. -/
def rank (file : SourceFile) : Option (WithBot (WithTop ℚ)) :=
  match (Value.lookup "sidebar_position" file.frontmatter).bind Value.number? with
  | some number => number.size?
  | none => some ((⊤ : WithTop ℚ) : WithBot (WithTop ℚ))

end SourceFile

/-- No file whose position is none of the sizes lies in a directory with one whose position is. -/
def Settled (files : List SourceFile) : Prop :=
  ∀ file ∈ files, ∀ other ∈ files,
    Path.parentSteps file.relativePath = Path.parentSteps other.relativePath →
      file.rank = none → other.rank = none

end DocBinder.Project
