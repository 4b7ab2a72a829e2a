import DocBinder.Project.Select
import DocBinder.Proofs.Project.Order
import DocBinder.Proofs.Steps

/-!
# Selected files

The files that a run selects are in their order. What matters about each of them is its path and its
text: two selections of files with equal paths and equal texts make the same content in the same
order.
-/

namespace DocBinder.Project

/-- The path is named in failures only. -/
theorem Frontmatter.ofText_ok {path : String} {text : Text} {front : Frontmatter}
    (parses : ofText path text = .ok front) (other : String) : ofText other text = .ok front := by
  rw [ofText] at parses ⊢
  split at parses
  · exact parses
  · rw [ofBlock] at parses ⊢
    split at parses
    · cases parses
    · exact parses
    · split at parses
      · exact parses
      · split at parses
        · cases parses
        · rename_i shallow
          rw [if_neg shallow]
          exact parses
      · cases parses

namespace SourceFile

/-- The key that a file is ordered by. -/
def key (file : SourceFile) : OrderKey :=
  .of file.relativePath file.frontmatter

/-- The front matter and the body of a file are those of its text. -/
def IsSplit (file : SourceFile) : Prop :=
  ∃ path, Frontmatter.ofText path file.text = .ok ⟨file.frontmatter, file.body⟩

/-- The path of a file leads to it from some directory. -/
theorem exists_relativeTo_of_read {files : FileTree} {path : String} {base : Option String}
    {file : SourceFile} (reads : read files path base = .ok file) :
    ∃ start, file.relativePath = Path.tidy (Path.relativeTo files.home path start) := by
  rcases Except.exists_of_bind_eq_ok reads with ⟨_, _, reads⟩
  rcases Except.exists_of_bind_eq_ok reads with ⟨_, _, reads⟩
  rcases Except.exists_of_bind_eq_ok reads with ⟨text, _, reads⟩
  rcases Except.exists_of_bind_eq_ok reads with ⟨front, parses, result⟩
  have leads := congrArg relativePath (Except.ok.inj result)
  dsimp only at leads
  exact ⟨_, leads.symm⟩

theorem isSplit_of_read {files : FileTree} {path : String} {base : Option String}
    {file : SourceFile} (reads : read files path base = .ok file) : file.IsSplit := by
  rcases Except.exists_of_bind_eq_ok reads with ⟨_, _, reads⟩
  rcases Except.exists_of_bind_eq_ok reads with ⟨_, _, reads⟩
  rcases Except.exists_of_bind_eq_ok reads with ⟨text, _, reads⟩
  rcases Except.exists_of_bind_eq_ok reads with ⟨front, parses, result⟩
  cases result
  exact ⟨path, parses⟩

/-- The path from the base directory and the text of a file. -/
def content (file : SourceFile) : String × Text :=
  (file.relativePath, file.text)

theorem map_fst_content (files : List SourceFile) :
    (files.map content).map (·.1) = files.map (·.relativePath) := by
  rw [List.map_map]
  rfl

/-- The front matter and the body that a text with a path is split into. -/
def splitContent (content : String × Text) : Frontmatter :=
  (Frontmatter.ofText content.1 content.2).toOption.getD default

/-- What a file with a path and a text is ordered by. -/
def contentKey (content : String × Text) : OrderKey :=
  .of content.1 (splitContent content).entries

theorem IsSplit.splitContent_eq {file : SourceFile} (isSplit : file.IsSplit) :
    splitContent file.content = ⟨file.frontmatter, file.body⟩ := by
  rcases isSplit with ⟨path, parses⟩
  rw [splitContent, content, Frontmatter.ofText_ok parses file.relativePath]
  rfl

theorem IsSplit.key_eq {file : SourceFile} (isSplit : file.IsSplit) :
    file.key = contentKey file.content := by
  rw [contentKey, isSplit.splitContent_eq]
  rfl

end SourceFile

/-! ## Selecting -/

/-- The files below a directory, among all files in their order. A directory outside the project's
is refused. -/
def filesOfDirectory (files : FileTree) (config : Config) (directory : String)
    (found : List SourceFile) : Except Failure (List SourceFile) :=
  let place := placeOf files config directory
  if Text.startsWith place.toList ['.', '.'] then
    .error (SourceFile.refused directory "validate"
      s!"Directory is outside docs directory {config.docsDirectory}")
  else if place == "." then .ok found
  else
    .ok (found.filter fun file =>
      Text.startsWith file.relativePath.toList (place.toList ++ ['/']))

/-- The files that are selected. -/
def selectFiles (files : FileTree) (config : Config) (selection : Selection) :
    Except Failure (List SourceFile) :=
  match given selection.file with
  | some path => (SourceFile.read files path (some config.docsDirectory)).map ([·])
  | none =>
      match scan files config (some config.docsDirectory) with
      | .error failure => .error failure
      | .ok (found, _) =>
          match given selection.directory with
          | none => .ok found
          | some directory => filesOfDirectory files config directory found

/-- Without a file or a directory, all files are selected. -/
theorem selectFiles_all {files : FileTree} {config : Config} {selection : Selection}
    (all : given selection.file = none ∧ given selection.directory = none)
    {found : List SourceFile} {log : List Log.Line}
    (scans : scan files config (some config.docsDirectory) = .ok (found, log)) :
    selectFiles files config selection = .ok found := by
  rw [selectFiles, all.1, all.2, scans]

theorem belowDirectory_map (files : FileTree) (config : Config) (directory : String)
    (found : List SourceFile) :
    belowDirectory files config directory (found.map (SourceFile.document files)) =
      (filesOfDirectory files config directory found).map
        (·.map (SourceFile.document files)) := by
  rw [belowDirectory, filesOfDirectory]
  generalize placeOf files config directory = place
  split
  · rw [Except.map]
  · split
    · rw [Except.map]
    · rw [Except.map]
      exact congrArg Except.ok List.filter_map

/-- The selected documents are those of the selected files. -/
theorem selectDocuments_eq (files : FileTree) (config : Config) (selection : Selection) :
    (selectDocuments files config selection).1 =
      (selectFiles files config selection).map (·.map (SourceFile.document files)) := by
  rw [selectDocuments, selectFiles]
  cases given selection.file with
  | some path =>
      dsimp only
      cases SourceFile.read files path (some config.docsDirectory) <;> simp [Except.map]
  | none =>
      rw [scanDocuments]
      cases scan files config (some config.docsDirectory) with
      | error failure => rfl
      | ok result =>
          rcases result with ⟨found, log⟩
          rw [Except.map]
          cases given selection.directory with
          | none => rfl
          | some directory =>
              dsimp only
              rw [belowDirectory_map]

/-! ## The order of what is selected -/

/-- No two of the files that are found in a project have the same directories and name, and positions
that are given are numbers. -/
structure Orderly (files : FileTree) (config : Config) : Prop where
  differ : ∀ found log, scan files config (some config.docsDirectory) = .ok (found, log) →
    (found.map fun file => (file.key.parents, file.key.name)).Nodup
  numbered : ∀ found log, scan files config (some config.docsDirectory) = .ok (found, log) →
    ∀ file ∈ found, file.key.position ≠ .nan

/-- Selected files are split as their texts are, have paths of their own, and are in their order. -/
structure Sorted (selected : List SourceFile) : Prop where
  split : ∀ file ∈ selected, file.IsSplit
  differ : (selected.map (·.relativePath)).Nodup
  ordered : InOrder (keysBefore SourceFile.key) selected

theorem Sorted.sublist {selected some : List SourceFile} (sorted : Sorted selected)
    (sublist : some.Sublist selected) : Sorted some :=
  ⟨fun file mem => sorted.split file (sublist.subset mem), sorted.differ.sublist (sublist.map _),
    List.Pairwise.sublist sublist sorted.ordered⟩

theorem read_of_readFound {files : FileTree} {config : Config} {root path : String}
    {file : SourceFile} (found : readFound files config root path = some (.inl file)) :
    SourceFile.read files path (some root) = .ok file := by
  rw [readFound] at found
  split at found
  · cases found
  · dsimp only at found
    split at found
    · cases found
    · split at found
      · rename_i reads
        cases found
        exact reads
      · cases found

/-- A scan sorts the files that it finds and reads. -/
theorem exists_sortByKey_of_scan {files : FileTree} {config : Config} {directory : Option String}
    {found : List SourceFile} {log : List Log.Line}
    (scans : scan files config directory = .ok (found, log)) :
    ∃ unsorted : List SourceFile, found = sortByKey SourceFile.key unsorted ∧
      ∀ file ∈ unsorted, ∃ path base, SourceFile.read files path base = .ok file := by
  rw [scan] at scans
  split at scans
  · cases scans
  · generalize (directory.filter fun directory => !directory.isEmpty).getD config.docsDirectory =
      root at scans
    refine ⟨_, (Prod.mk.inj (Except.ok.inj scans)).1.symm, fun file mem => ?_⟩
    rcases List.mem_filterMap.mp mem with ⟨left, isFound, isFile⟩
    rcases List.mem_filterMap.mp isFound with ⟨path, _, reads⟩
    cases left with
    | inl other =>
        cases isFile
        exact ⟨path, some root, read_of_readFound reads⟩
    | inr line => cases isFile

theorem exists_read_of_scan {files : FileTree} {config : Config} {directory : Option String}
    {found : List SourceFile} {log : List Log.Line}
    (scans : scan files config directory = .ok (found, log)) :
    ∀ file ∈ found, ∃ path base, SourceFile.read files path base = .ok file := by
  rcases exists_sortByKey_of_scan scans with ⟨unsorted, rfl, areRead⟩
  exact fun file mem => areRead file ((perm_sortByKey SourceFile.key unsorted).mem_iff.mp mem)

theorem isSplit_of_scan {files : FileTree} {config : Config} {found : List SourceFile}
    {log : List Log.Line} (scans : scan files config (some config.docsDirectory) = .ok (found, log)) :
    ∀ file ∈ found, file.IsSplit := by
  intro file mem
  rcases exists_read_of_scan scans file mem with ⟨path, base, reads⟩
  exact SourceFile.isSplit_of_read reads

theorem sorted_scan {files : FileTree} {config : Config} (orderly : Orderly files config)
    {found : List SourceFile} {log : List Log.Line}
    (scans : scan files config (some config.docsDirectory) = .ok (found, log)) : Sorted found := by
  have differ := orderly.differ found log scans
  have comparable := comparable_of_nodup SourceFile.key differ (orderly.numbered found log scans)
  refine ⟨isSplit_of_scan scans, ?_, ?_⟩
  · have paths : ((found.map (·.relativePath)).map fun path =>
        (Path.parentSteps path, Path.name path)).Nodup := by
      rw [List.map_map]
      exact differ
    exact .of_map _ paths
  · rcases exists_sortByKey_of_scan scans with ⟨unsorted, rfl, _⟩
    exact inOrder_sortByKey SourceFile.key
      (comparable.perm (perm_sortByKey SourceFile.key unsorted))

theorem sublist_filesOfDirectory {files : FileTree} {config : Config} {directory : String}
    {found selected : List SourceFile}
    (selects : filesOfDirectory files config directory found = .ok selected) :
    selected.Sublist found := by
  rw [filesOfDirectory] at selects
  split at selects
  · cases selects
  · split at selects
    · cases selects
      exact .refl _
    · cases selects
      exact List.filter_sublist

theorem sorted_selectFiles {files : FileTree} {config : Config} (orderly : Orderly files config)
    {selection : Selection} {selected : List SourceFile}
    (selects : selectFiles files config selection = .ok selected) : Sorted selected := by
  rw [selectFiles] at selects
  split at selects
  · cases reads : SourceFile.read files _ (some config.docsDirectory) with
    | error failure =>
        rw [reads] at selects
        cases selects
    | ok file =>
        rw [reads] at selects
        cases selects
        refine ⟨fun other mem => ?_, List.nodup_singleton _, List.pairwise_singleton _ _⟩
        rw [List.mem_singleton.mp mem]
        exact SourceFile.isSplit_of_read reads
  · split at selects
    · cases selects
    · rename_i scans
      have sorted := sorted_scan orderly scans
      split at selects
      · cases selects
        exact sorted
      · exact sorted.sublist (sublist_filesOfDirectory selects)

theorem Sorted.contents_inOrder {selected : List SourceFile} (sorted : Sorted selected) :
    InOrder (keysBefore SourceFile.contentKey) (selected.map SourceFile.content) := by
  refine List.pairwise_map.mpr (sorted.ordered.imp_of_mem fun {first second} isFirst isSecond before => ?_)
  rw [keysBefore, ← (sorted.split first isFirst).key_eq, ← (sorted.split second isSecond).key_eq]
  exact before

/-- Sorted files with the same contents are in the same order. -/
theorem Sorted.contents_eq {selected others : List SourceFile} (sorted : Sorted selected)
    (otherSorted : Sorted others)
    (same : ∀ content, content ∈ selected.map SourceFile.content ↔
      content ∈ others.map SourceFile.content) :
    selected.map SourceFile.content = others.map SourceFile.content := by
  have differ {files : List SourceFile} (sorted : Sorted files) :
      (files.map SourceFile.content).Nodup := by
    have paths := sorted.differ
    rw [← SourceFile.map_fst_content] at paths
    exact .of_map _ paths
  exact InOrder.eq_of_perm (keysBefore_irrefl _) (keysBefore_trans _) sorted.contents_inOrder
    otherSorted.contents_inOrder
    ((List.perm_ext_iff_of_nodup (differ sorted) (differ otherSorted)).mpr same)

end DocBinder.Project
