import DocBinder.Proofs.Files.Path
import DocBinder.Proofs.Project.Selection

/-!
# Documents below a directory

Which documents lie below a directory is decided on texts: on whether the path that leads from the
project's directory begins with two dots, and on whether that path with a slash behind it begins the
path of a document. Both come to conditions on the names of paths. The second one is what is meant:
the names of the directory lead on to those of the document. The first one is not quite: a directory
outside the project is refused, but so is one inside it that is reached through a name with two dots
in front.
-/

namespace DocBinder.Project

/-- The home directory has a place that can be named. -/
def Rooted (files : FileTree) : Prop :=
  ∀ name ∈ files.home, Path.IsName name

/-- Whether a directory is that of the project or lies below it, without a look at links. -/
def IsInside (files : FileTree) (config : Config) (directory : String) : Prop :=
  Path.absoluteNames files.home config.docsDirectory <+: Path.absoluteNames files.home directory

/-- The names that lead down from the project's directory to one inside it. -/
def namesInside (files : FileTree) (config : Config) (directory : String) : List String :=
  (Path.absoluteNames files.home directory).drop
    (Path.absoluteNames files.home config.docsDirectory).length

/-- Whether the first of some names begins with two dots. -/
def isDotted (names : List String) : Bool :=
  names.head?.any fun name => Text.startsWith name.toList ['.', '.']

/-- Whether a path lies below names: they are the first ones of its names, and not all of them. No
names stand for the project's directory, below which all paths lie. -/
def liesBelow (names : List String) (path : String) : Bool :=
  names.isEmpty || names.isPrefixOf (Path.steps path) && names != Path.steps path

/-- The refusal of a directory outside the project. -/
def outside (config : Config) (directory : String) : Failure :=
  SourceFile.refused directory "validate"
    s!"Directory is outside docs directory {config.docsDirectory}"

instance (files : FileTree) (config : Config) (directory : String) :
    Decidable (IsInside files config directory) :=
  inferInstanceAs (Decidable (_ <+: _))

variable {files : FileTree} {config : Config} {directory : String}

theorem placeOf_eq (rooted : Rooted files) (config : Config) (directory : String) :
    placeOf files config directory =
      Path.relative (Path.way (Path.absoluteNames files.home config.docsDirectory)
        (Path.absoluteNames files.home directory)) := by
  rw [placeOf, Path.relativeTo_eq, Path.tidy_relative]
  exact Path.isStep_of_mem_way (Path.isName_of_mem_absoluteNames rooted directory)

theorem isName_of_mem_namesInside (rooted : Rooted files) :
    ∀ name ∈ namesInside files config directory, Path.IsName name := fun name mem =>
  Path.isName_of_mem_absoluteNames rooted directory name (List.mem_of_mem_drop mem)

/-- The path of a document is made of its steps. -/
theorem relative_steps_of_scan (rooted : Rooted files) {documents : List Sync.SourceDocument}
    {log : List Log.Line}
    (scans : scanDocuments files config (some config.docsDirectory) = .ok (documents, log)) :
    ∀ document ∈ documents, document.path = Path.relative (Path.steps document.path) := by
  rcases Except.exists_of_map_eq_ok scans with ⟨⟨found, foundLog⟩, scans, same⟩
  cases same
  intro document isDocument
  rcases List.mem_map.mp isDocument with ⟨file, mem, rfl⟩
  rcases exists_read_of_scan scans file mem with ⟨path, base, reads⟩
  rcases SourceFile.exists_relativeTo_of_read reads with ⟨start, leads⟩
  have areSteps : ∀ name ∈ Path.way (Path.absoluteNames files.home start)
      (Path.absoluteNames files.home path), Path.IsStep name :=
    Path.isStep_of_mem_way (Path.isName_of_mem_absoluteNames rooted path)
  change file.relativePath = Path.relative (Path.steps file.relativePath)
  rw [leads, Path.relativeTo_eq, Path.tidy_relative areSteps, Path.steps_relative areSteps]

/-- The way to a directory begins with two dots when it leads out of the project, and when it leads
through a name that does. -/
theorem startsWith_placeOf (rooted : Rooted files) :
    Text.startsWith (placeOf files config directory).toList ['.', '.'] = true ↔
      ¬ IsInside files config directory ∨ isDotted (namesInside files config directory) = true := by
  have areNames := Path.isName_of_mem_absoluteNames rooted directory
  rw [placeOf_eq rooted, Path.startsWith_dots (Path.isStep_of_mem_way areNames)]
  by_cases inside : IsInside files config directory
  · rw [Path.way_of_prefix inside]
    exact ⟨.inr, fun either => either.resolve_left (not_not_intro inside)⟩
  · rw [Path.head?_way_of_not_prefix inside]
    exact ⟨fun _ => .inl inside, fun _ => rfl⟩

theorem startsWith_path (rooted : Rooted files) (inside : IsInside files config directory)
    (below : namesInside files config directory ≠ []) {path : String}
    (isRelative : path = Path.relative (Path.steps path)) :
    Text.startsWith path.toList ((placeOf files config directory).toList ++ ['/']) =
      liesBelow (namesInside files config directory) path := by
  have ownSteps : ∀ name ∈ namesInside files config directory, Path.IsStep name := fun name mem =>
    (isName_of_mem_namesInside rooted name mem).toIsStep
  have areSteps : ∀ name ∈ Path.steps path, Path.IsStep name := fun _ => Path.isStep_of_mem_steps
  have lies := Path.startsWith_slash below ownSteps areSteps
  rw [← isRelative] at lies
  rw [placeOf_eq rooted, Path.way_of_prefix inside]
  change Text.startsWith path.toList ((Path.relative (namesInside files config directory)).toList ++ ['/']) = _
  rw [Bool.eq_iff_iff, lies, liesBelow]
  simp [below]

/-- Of the documents of a project, those below a directory inside it are selected, in their order,
unless the way to the directory begins with a name with two dots in front. In this case, and when the
directory lies outside the project, it is refused as a directory outside the project. -/
theorem selects_below (rooted : Rooted files) {selection : Selection}
    (noFile : given selection.file = none) (isGiven : given selection.directory = some directory)
    {documents : List Sync.SourceDocument} {log : List Log.Line}
    (scans : scanDocuments files config (some config.docsDirectory) = .ok (documents, log)) :
    (selectDocuments files config selection).1 =
      if IsInside files config directory ∧ isDotted (namesInside files config directory) = false then
        .ok (documents.filter fun document =>
          liesBelow (namesInside files config directory) document.path)
      else .error (outside config directory) := by
  have selects : (selectDocuments files config selection).1 =
      belowDirectory files config directory documents := by
    rw [selectDocuments, noFile]
    dsimp only
    rw [scans]
    dsimp only
    rw [isGiven]
  have refuses : Text.startsWith (placeOf files config directory).toList ['.', '.'] = true ↔
      ¬ IsInside files config directory ∨ isDotted (namesInside files config directory) = true :=
    startsWith_placeOf rooted
  rw [selects, belowDirectory]
  by_cases accepted :
      IsInside files config directory ∧ isDotted (namesInside files config directory) = false
  · rcases accepted with ⟨inside, plain⟩
    have starts : Text.startsWith (placeOf files config directory).toList ['.', '.'] = false := by
      rw [← Bool.not_eq_true, refuses]
      simp [inside, plain]
    rw [if_pos (⟨inside, plain⟩ : _ ∧ _)]
    simp only [starts, Bool.false_eq_true, if_false]
    by_cases all : namesInside files config directory = []
    · have here : placeOf files config directory = "." := by
        rw [placeOf_eq rooted, Path.way_of_prefix inside]
        exact congrArg Path.relative all
      have whole : (documents.filter fun document =>
          liesBelow (namesInside files config directory) document.path) = documents := by
        rw [List.filter_eq_self]
        simp [liesBelow, all]
      rw [here, whole]
      rfl
    · have elsewhere : placeOf files config directory ≠ "." := by
        intro here
        rw [placeOf_eq rooted, Path.way_of_prefix inside] at here
        have kept : Path.steps (Path.relative (namesInside files config directory)) =
            namesInside files config directory :=
          Path.steps_relative fun name mem => (isName_of_mem_namesInside rooted name mem).toIsStep
        rw [namesInside, here] at kept
        exact all kept.symm
      rw [if_neg (by simpa using elsewhere)]
      refine congrArg Except.ok (List.filter_congr fun document mem => ?_)
      exact startsWith_path rooted inside all (relative_steps_of_scan rooted scans document mem)
  · have starts : Text.startsWith (placeOf files config directory).toList ['.', '.'] = true := by
      rw [refuses]
      by_cases inside : IsInside files config directory
      · exact .inr (by simpa [inside] using accepted)
      · exact .inl inside
    rw [if_neg accepted]
    simp only [starts, if_true]
    rfl

/-- A directory with a file in it, beside a file whose name begins as that of the directory does. In
the directory lies another one, with two dots in front of its name. -/
def shelf : FileTree :=
  ⟨["home"], [(["home"], .directory), (["home", "docs"], .directory),
    (["home", "docs", "guide"], .directory),
    (["home", "docs", "guide.md"], .file "g".toUTF8),
    (["home", "docs", "guide", "a.md"], .file "a".toUTF8),
    (["home", "docs", "guide", "..b"], .directory),
    (["home", "docs", "guide", "..b", "b.md"], .file "b".toUTF8)]⟩

theorem rooted_shelf : Rooted shelf := by
  intro name mem
  rw [List.mem_singleton.mp mem]
  exact ⟨⟨by decide, by decide, by decide⟩, by decide⟩

/-- A configuration with a directory of documents. -/
def inDirectory (directory : String) : Config :=
  { Config.default with docsDirectory := directory }

theorem exists_documents_shelf (directory : String)
    (found : (scanDocuments shelf (inDirectory directory) (some directory)).toOption.isSome = true) :
    ∃ documents log,
      scanDocuments shelf (inDirectory directory) (some (inDirectory directory).docsDirectory) =
        .ok (documents, log) := by
  rcases Option.isSome_iff_exists.mp found with ⟨⟨documents, log⟩, scans⟩
  exact ⟨documents, log, Except.toOption_eq_some.mp scans⟩

example :
    (scanDocuments shelf (inDirectory "docs") (some "docs")).toOption.map
      (fun found => found.1.map (·.path)) = some ["guide.md", "guide/a.md", "guide/..b/b.md"] := by
  decide +kernel

/-- The directory lies below that of the documents, and it is refused. -/
theorem not_all_inside_selected :
    ¬ ∀ (files : FileTree) (config : Config) (directory : String)
        (documents : List Sync.SourceDocument) (log : List Log.Line), Rooted files →
      scanDocuments files config (some config.docsDirectory) = .ok (documents, log) →
      directory.isEmpty = false → IsInside files config directory →
      (selectDocuments files config ⟨none, some directory⟩).1 =
        .ok (documents.filter fun document =>
          (namesInside files config directory).isPrefixOf (Path.steps document.path)) := by
  intro selects
  rcases exists_documents_shelf "docs/guide" (by decide +kernel) with ⟨documents, log, scans⟩
  have selected := selects shelf (inDirectory "docs/guide") "docs/guide/..b" documents log rooted_shelf
    scans (by decide) (by decide +kernel)
  have refused : (selectDocuments shelf (inDirectory "docs/guide")
      ⟨none, some "docs/guide/..b"⟩).1.toOption.isNone = true := by
    decide +kernel
  rw [selected] at refused
  cases refused

/-- A directory inside the project, by a way that goes up and down. -/
theorem selects_below_shelf :
    ∃ documents log, Rooted shelf ∧ given (some "docs/x/.././guide/") = some "docs/x/.././guide/" ∧
      scanDocuments shelf (inDirectory "docs") (some (inDirectory "docs").docsDirectory) =
        .ok (documents, log) ∧
      (selectDocuments shelf (inDirectory "docs") ⟨none, some "docs/x/.././guide/"⟩).1 =
        .ok (documents.filter fun document => liesBelow ["guide"] document.path) := by
  rcases exists_documents_shelf "docs" (by decide +kernel) with ⟨documents, log, scans⟩
  have isGiven : given (some "docs/x/.././guide/") = some "docs/x/.././guide/" := by decide +kernel
  have noFile : given (⟨none, some "docs/x/.././guide/"⟩ : Selection).file = none := rfl
  have selects := selects_below rooted_shelf noFile isGiven scans
  have names : namesInside shelf (inDirectory "docs") "docs/x/.././guide/" = ["guide"] := by
    decide +kernel
  rw [if_pos (by decide +kernel), names] at selects
  exact ⟨documents, log, rooted_shelf, isGiven, scans, selects⟩

end DocBinder.Project
