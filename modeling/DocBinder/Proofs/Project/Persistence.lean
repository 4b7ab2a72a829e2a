import DocBinder.Proofs.Files.Stored
import DocBinder.Proofs.Project.Loading
import DocBinder.Proofs.Yaml.Pages
import DocBinder.Proofs.Yaml.Returns

/-!
# What survives saving

A state that a mapping gave is the same after it was saved and loaded again, with its records in the same
order, and so is every state that it is updated to; and a configuration that a mapping gave is the same
as well. What is normalized when a mapping is read is written as it is read again: texts without blanks
around them, an empty text for what is not given, and no list where there are no patterns to exclude.
-/

namespace DocBinder

/-! ## Texts -/

namespace Value

theorem written_str (text : String) : (Value.str text).written = .ok text :=
  rfl

theorem mapM_written (texts : List String) : (texts.map Value.str).mapM written = .ok texts := by
  induction texts with
  | nil => rfl
  | cons text rest step =>
      rw [List.map_cons, List.mapM_cons, written_str, step]
      rfl

end Value

namespace Project

/-! ## The state -/

namespace StateFile

open Sync (State Record)

theorem rootField_of_part {value : Value} {field : String} {text : Option String}
    (isPart : value.part field = optional text) (trimmed : ∀ given, text = some given → IsTrimmed given) :
    rootField value field = .ok text := by
  unfold rootField
  rw [isPart]
  cases text with
  | none => rfl
  | some given =>
      rcases trimmed given rfl with ⟨nonempty, same⟩
      have isFull : given.toList.isEmpty = false := List.isEmpty_eq_false_iff.mpr nonempty
      simp only [optional, Option.map_some, Option.getD_some, same, isFull, Bool.false_eq_true, if_false,
        String.ofList_toList]

theorem textOrNothing_of_part {value : Value} {field text : String}
    (isPart : value.part field = .str text) : textOrNothing value field = .ok text := by
  rw [textOrNothing, isPart]
  by_cases isEmpty : text.isEmpty = true
  · exact (if_pos isEmpty).trans (by rw [String.isEmpty_iff.mp isEmpty])
  · exact if_neg isEmpty

theorem recordOfParts_recordValue (record : Record) :
    recordOfParts (recordValue record) = .ok record := by
  have hash : (recordValue record).part "hash" = .str record.hash := rfl
  have documentId : (recordValue record).part "document_id" = .str record.documentId := rfl
  have title : (recordValue record).part "title" = .str record.title := rfl
  have lastSynced : (recordValue record).part "last_synced" = .str record.lastSynced := rfl
  rw [recordOfParts, hash, documentId, textOrNothing_of_part lastSynced, textOrNothing_of_part title]
  rfl

theorem recordOf_recordValue (path : String) (record : Record) :
    recordOf (.str path) (recordValue record) = .ok (path, record) := by
  change (recordOfParts (recordValue record)).map (fun record => (path, record)) = .ok (path, record)
  rw [recordOfParts_recordValue]
  rfl

theorem recordsOf_records (records : List (String × Record)) :
    recordsOf (.record (records.map fun (path, record) => (path, recordValue record))) =
      .ok records := by
  have reads (records : List (String × Record)) :
      (records.map fun entry => (Value.str entry.1, recordValue entry.2)).mapM
        (fun entry => recordOf entry.1 entry.2) = .ok records := by
    induction records with
    | nil => rfl
    | cons entry rest step =>
        rw [List.map_cons, List.mapM_cons, recordOf_recordValue, step]
        rfl
  rw [Value.record, List.map_map]
  cases records with
  | nil => rfl
  | cons entry rest => exact reads (entry :: rest)

/-- What is written of a tidy state is read as this state. -/
theorem ofValue_toValue {state : State} (tidy : Tidy state) : ofValue (toValue state) = .ok state := by
  have rootId : rootField (toValue state) "root_document_id" = .ok state.rootId :=
    rootField_of_part rfl tidy.rootId
  have rootUrl : rootField (toValue state) "root_document_url" = .ok state.rootUrl :=
    rootField_of_part rfl tidy.rootUrl
  have lastSynced : rootField (toValue state) "last_synced" = .ok state.lastSynced :=
    rootField_of_part rfl tidy.lastSynced
  have records : recordsOf ((toValue state).part "documents") = .ok state.records :=
    recordsOf_records state.records
  rw [ofValue, rootId, rootUrl, lastSynced, records]
  rfl

theorem isData_optional (text : Option String) : (optional text).IsData := by
  cases text with
  | none => exact .null
  | some given => exact .str given

theorem isData_recordValue (record : Record) : (recordValue record).IsData := by
  refine .record ?_
  simp only [List.forall_mem_cons, List.not_mem_nil, false_imp_iff, implies_true, and_true]
  exact ⟨.str _, .str _, .str _, .str _⟩

theorem isData_toValue (state : State) : (toValue state).IsData := by
  refine .record ?_
  simp only [List.forall_mem_cons, List.not_mem_nil, false_imp_iff, implies_true, and_true]
  refine ⟨isData_optional _, isData_optional _, isData_optional _, .record ?_⟩
  intro field mem
  rcases List.mem_map.mp mem with ⟨entry, _, rfl⟩
  exact isData_recordValue entry.2

theorem ofText_write {state : State} (tidy : Tidy state) (returns : Yaml.Returns (toValue state)) :
    ofText (Yaml.write (toValue state)) = .ok state := by
  have shown : (Yaml.write (toValue state)).all Text.isBlank = false := by
    rw [List.all_eq_false]
    exact ⟨':', Yaml.colon_mem_write (isData_toValue state), by decide⟩
  rw [ofText, shown, returns.reads]
  exact ofValue_toValue tidy

/-- A state is the same after it was saved and loaded again. Only the file system keeps it from being
saved. -/
structure Survives (state : State) (files : FileTree) (path : String) : Prop where
  loads : ∀ after, save state files path = .ok after → load after path = .ok state
  refused : ∀ failure, save state files path = .error failure → ∃ refused operation reason,
    failure = .of (.stateFilesystem refused operation (some reason))

theorem survives_of_tidy {state : State} {files : FileTree} (housed : files.Housed) (path : String)
    (tidy : Tidy state) (returns : Yaml.Returns (toValue state)) : Survives state files path := by
  refine ⟨?_, ?_⟩
  · intro after saves
    have reads := FileTree.readText_of_store housed (Yaml.not_mem_write (isData_toValue state))
      (FileTree.eq_ok_of_mapError_eq_ok saves)
    rw [load, reads]
    exact ofText_write tidy returns
  · intro failure fails
    rcases FileTree.exists_of_mapError_eq_error fails with ⟨fault, rfl⟩
    exact ⟨_, _, _, rfl⟩

/-! ## Updates -/

/-- A moment as it is written, without blanks around it. -/
structure Stamp where
  text : String
  trimmed : IsTrimmed text

/-- What is done to a state between loading and saving. -/
inductive Update where
  | synced (path hash documentId : String) (now : Stamp)
  | retained (paths : List String)
  | titled (path title : String)
  | completed (now : Stamp)

/-- The state after an update. -/
def Update.apply (state : State) : Update → State
  | .synced path hash documentId now => state.recordSynced path hash documentId now.text
  | .retained paths => state.retain paths
  | .titled path title => state.setTitle path title
  | .completed now => state.markCompleted now.text

/-- The state after some updates, one after the other. -/
def updated (state : State) (updates : List Update) : State :=
  updates.foldl Update.apply state

theorem Tidy.apply {state : State} (tidy : Tidy state) (update : Update) : Tidy (update.apply state) := by
  cases update with
  | synced path hash documentId now => exact ⟨tidy.rootId, tidy.rootUrl, tidy.lastSynced⟩
  | retained paths => exact ⟨tidy.rootId, tidy.rootUrl, tidy.lastSynced⟩
  | titled path title => exact ⟨tidy.rootId, tidy.rootUrl, tidy.lastSynced⟩
  | completed now =>
      refine ⟨tidy.rootId, tidy.rootUrl, ?_⟩
      rintro _ ⟨⟩
      exact now.trimmed

theorem Tidy.updated {state : State} (tidy : Tidy state) (updates : List Update) :
    Tidy (updated state updates) := by
  induction updates generalizing state with
  | nil => exact tidy
  | cons update rest step => exact step (tidy.apply update)

end StateFile

/-! ## The configuration -/

namespace Config

theorem textList_of_part {value : Value} {field : String} {texts : List String}
    (isPart : value.part field = .list (texts.map .str)) (default : List String) :
    textList value field default = .ok texts := by
  rw [textList, isPart]
  exact Value.mapM_written texts

theorem excluded_toValue (config : Config) :
    textList config.toValue "exclude_patterns" [] = .ok config.excludePatterns := by
  cases excluded : config.excludePatterns with
  | nil =>
      have absent : config.toValue.part "exclude_patterns" = .null := by
        rw [toValue, excluded]
        rfl
      rw [textList, absent]
  | cons pattern rest =>
      refine textList_of_part ?_ []
      rw [toValue, excluded]
      rfl

/-- What is written of a valid configuration is read as this configuration. -/
theorem ofValue_toValue {config : Config} (isValid : config.IsValid) :
    ofValue config.toValue = .ok config := by
  have directory : docsDirectoryOf config.toValue = .ok config.docsDirectory :=
    if_neg (Bool.eq_false_iff.mp isValid.directory)
  have title : titleOf config.toValue = .ok config.title := rfl
  have chunk : wholeNumber ((config.toValue.get? "image_chunk_size").getD (.int default.chunkSize)) =
      .ok config.chunkSize := rfl
  have languages : textList config.toValue "diagram_languages" default.diagramLanguages =
      .ok config.diagramLanguages := textList_of_part rfl _
  have files : textList config.toValue "file_patterns" default.filePatterns = .ok config.filePatterns :=
    textList_of_part rfl _
  have many : ¬ config.chunkSize < 1 := Int.not_lt.mpr isValid.chunk
  rw [ofValue, directory, title, chunk, languages, files, excluded_toValue]
  change (if isBlankText config.title = true then _ else if config.chunkSize < 1 then _ else _) = _
  rw [isValid.title, if_neg Bool.false_ne_true, if_neg many]
  rfl

theorem isData_texts (texts : List String) : (Value.list (texts.map .str)).IsData := by
  refine .list ?_
  intro item mem
  rcases List.mem_map.mp mem with ⟨text, _, rfl⟩
  exact .str text

theorem isData_toValue (config : Config) : config.toValue.IsData := by
  refine .record ?_
  rw [List.forall_mem_append]
  constructor
  · simp only [List.forall_mem_cons, List.not_mem_nil, false_imp_iff, implies_true, and_true]
    exact ⟨.str _, .str _, .int _, isData_texts _, isData_texts _⟩
  · split
    · exact fun _ mem => absurd mem List.not_mem_nil
    · exact List.forall_mem_singleton.mpr (isData_texts _)

/-- A configuration is the same after it was saved and loaded again. Only the file system keeps it from
being saved. -/
structure Survives (config : Config) (files : FileTree) (path : String) : Prop where
  loads : ∀ after, config.save files path = .ok after → load after path = .ok config
  refused : ∀ failure, config.save files path = .error failure → ∃ refused operation reason,
    failure = .of (.filesystem refused operation (some reason))

theorem ofText_write {config : Config} (isValid : config.IsValid)
    (returns : Yaml.Returns config.toValue) : ofText (Yaml.write config.toValue) = .ok config := by
  unfold ofText
  rw [returns.reads]
  exact ofValue_toValue isValid

theorem survives_of_isValid {config : Config} {files : FileTree} (housed : files.Housed) (path : String)
    (isValid : config.IsValid) (returns : Yaml.Returns config.toValue) : config.Survives files path := by
  have short : Value.isLong config.chunkSize = false := by
    refine Bool.eq_false_iff.mpr fun long => ?_
    have isPart : config.toValue.get? "image_chunk_size" = some (.int config.chunkSize) := rfl
    have whole := Value.hasLong_of_get? isPart long
    rw [returns.short] at whole
    cases whole
  have stores : config.save files path = (files.store path (Yaml.write config.toValue)).mapError
      fun fault => .of (.filesystem fault.path fault.operation (some fault.reason)) := by
    rw [save, if_neg (Bool.eq_false_iff.mp short)]
  refine ⟨?_, ?_⟩
  · intro after saves
    rw [stores] at saves
    have reads := FileTree.readText_of_store housed (Yaml.not_mem_write config.isData_toValue)
      (FileTree.eq_ok_of_mapError_eq_ok saves)
    rw [load, reads]
    exact ofText_write isValid returns
  · intro failure fails
    rw [stores] at fails
    rcases FileTree.exists_of_mapError_eq_error fails with ⟨fault, rfl⟩
    exact ⟨_, _, _, rfl⟩

end Config

/-! ## Mappings that are accepted -/

/-- Whatever mapping is accepted as a state, and however the state is updated, it survives saving, and so
does the configuration of every mapping that is accepted as one. -/
theorem survives_saving {files : FileTree} (housed : files.Housed) (path : String) :
    (∀ entries state updates, StateFile.ofValue (.map entries) = .ok state →
      Yaml.Returns (StateFile.toValue (StateFile.updated state updates)) →
      StateFile.Survives (StateFile.updated state updates) files path) ∧
    (∀ entries config, Config.ofValue (.map entries) = .ok config →
      Yaml.Returns config.toValue → config.Survives files path) := by
  constructor
  · intro entries state updates accepts returns
    have tidy : StateFile.Tidy state := (StateFile.ends_ofValue (.map entries)).of_ok accepts
    have further : StateFile.Tidy (StateFile.updated state updates) := tidy.updated updates
    exact StateFile.survives_of_tidy housed path further returns
  · intro entries config accepts returns
    have isValid := (Config.ends_ofValue (.map entries)).of_ok accepts
    exact Config.survives_of_isValid housed path isValid returns

theorem Except.exists_of_isOk {ε α : Type} {result : Except ε α} (isOk : result.isOk = true) :
    ∃ value, result = .ok value := by
  cases result with
  | ok value => exact ⟨value, rfl⟩
  | error fault => cases isOk

/-- A home directory without files. -/
def bare : FileTree :=
  ⟨["home"], [(["home"], .directory)]⟩

theorem housed_bare : bare.Housed := by
  intro front isFront
  rcases List.prefix_cons_iff.mp isFront with rfl | ⟨rest, rfl, isRest⟩
  · rfl
  · rw [List.prefix_nil.mp isRest]
    rfl

/-- The moment of a run. -/
def newYear : StateFile.Stamp :=
  ⟨"2026-01-01T00:00:00Z", by decide, by decide⟩

/-- A state with blanks around its document and a number for a digest. -/
def looseState : List (Value × Value) :=
  [(.str "root_document_id", .str " 1AbC "),
    (.str "documents", .map [(.str "intro.md",
      .map [(.str "hash", .int 12), (.str "document_id", .str "1AbC")])])]

/-- The state after a run that has written a further document. -/
def furtherState : Sync.State :=
  ⟨some "1AbC", none, some "2026-01-01T00:00:00Z", [("intro.md", ⟨"12", "1AbC", "", ""⟩),
    ("setup.md", ⟨"ff", "1AbC", "2026-01-01T00:00:00Z", "Setup"⟩)]⟩

/-- A configuration with a text for its number of images and nothing to exclude. -/
def looseConfig : List (Value × Value) :=
  [(.str "docs_dir", .str "docs"), (.str "image_chunk_size", .str " 5 "),
    (.str "exclude_patterns", .null)]

/-- The configuration that is meant. -/
def strictConfig : Config :=
  ⟨"docs", "Documentation", 5, Config.default.diagramLanguages, Config.default.filePatterns, []⟩

/-- What is normalized when it is loaded is saved, and loads as it was. -/
theorem survives_saving_loose :
    (∃ after, StateFile.save furtherState bare "a/state.yaml" = .ok after ∧
      StateFile.load after "a/state.yaml" = .ok furtherState) ∧
    ∃ after, strictConfig.save bare "a/config.yaml" = .ok after ∧
      Config.load after "a/config.yaml" = .ok strictConfig := by
  constructor
  · have survives : StateFile.Survives furtherState bare "a/state.yaml" :=
      (survives_saving housed_bare "a/state.yaml").1 looseState
        ⟨some "1AbC", none, none, [("intro.md", ⟨"12", "1AbC", "", ""⟩)]⟩
        [.synced "setup.md" "ff" "1AbC" newYear, .titled "setup.md" "Setup",
          .retained ["setup.md", "intro.md"], .completed newYear] (Except.toOption_eq_some.mp (by decide +kernel))
        (Yaml.returns_of (by decide +kernel))
    have stores : (StateFile.save furtherState bare "a/state.yaml").isOk = true := by decide +kernel
    rcases Except.exists_of_isOk stores with ⟨after, saves⟩
    exact ⟨after, saves, survives.loads after saves⟩
  · have survives : strictConfig.Survives bare "a/config.yaml" :=
      (survives_saving housed_bare "a/config.yaml").2 looseConfig strictConfig
        (Except.toOption_eq_some.mp (by decide +kernel)) (Yaml.returns_of (by decide +kernel))
    have stores : (strictConfig.save bare "a/config.yaml").isOk = true := by decide +kernel
    rcases Except.exists_of_isOk stores with ⟨after, saves⟩
    exact ⟨after, saves, survives.loads after saves⟩

end Project

end DocBinder
