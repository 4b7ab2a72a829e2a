import DocBinder.Project.Config
import DocBinder.Project.StateFile
import DocBinder.Proofs.Steps
import DocBinder.Proofs.Text.Lines
import DocBinder.Proofs.Value.Long

/-!
# What loading comes to

A configuration that loads names a directory and a title and has chunks of one image at least, and a
state that loads has no blanks around what it says of the project. Files that do not load are refused by
name, but for a few: bytes that are no text, something that is written well and has no value, an
infinite number of images, and a whole number that is too long to be shown.
-/

namespace DocBinder.Project

variable {α β : Type}

/-! ## Results -/

/-- Reading gives a value for which `returns` holds, or fails such that `fails` does. -/
def Ends (result : Except Failure α) (returns : α → Prop) (fails : Failure → Prop) : Prop :=
  match result with
  | .ok value => returns value
  | .error failure => fails failure

namespace Ends

variable {result : Except Failure α} {returns : α → Prop} {fails : Failure → Prop}

theorem of_ok {value : α} (ends : Ends result returns fails) (gives : result = .ok value) :
    returns value := by
  rw [gives] at ends
  exact ends

theorem mono {further : α → Prop} {also : Failure → Prop} (ends : Ends result returns fails)
    (holds : ∀ value, returns value → further value)
    (told : ∀ failure, fails failure → also failure) : Ends result further also := by
  cases result with
  | ok value => exact holds value ends
  | error failure => exact told failure ends

theorem bind {next : α → Except Failure β} {after : β → Prop}
    (ends : Ends result (fun value => Ends (next value) after fails) fails) :
    Ends (result >>= next) after fails := by
  cases result with
  | ok value => exact ends
  | error failure => exact ends

theorem map {change : α → β} {after : β → Prop}
    (ends : Ends result (fun value => after (change value)) fails) :
    Ends (result.map change) after fails := by
  cases result with
  | ok value => exact ends
  | error failure => exact ends

theorem mapM {items : List α} {read : α → Except Failure β}
    (ends : ∀ item ∈ items, Ends (read item) (fun _ => True) fails) :
    Ends (items.mapM read) (fun _ => True) fails := by
  induction items with
  | nil => exact trivial
  | cons item rest step =>
      rw [List.forall_mem_cons] at ends
      rw [List.mapM_cons]
      refine bind (ends.1.mono (fun _ _ => ?_) fun _ fails => fails)
      exact bind ((step ends.2).mono (fun _ _ => trivial) fun _ fails => fails)

end Ends

/-! ## Failures -/

/-- A failure by name: a file that is not read, or one whose content is not accepted. -/
inductive Told (unread : String → String → Option String → Cause)
    (refused : String → Option String → Cause) (path : String) : Failure → Prop where
  | unread (reason : String) : Told unread refused path (.of (unread path "read" (some reason)))
  | refused (note : String) (field : Option String) : Told unread refused path (.of (refused note field))

/-- A failure of something else on the way to a value, or of the value itself when it `overruns`. -/
inductive Escapes (overruns : Value → Failure → Prop) (files : FileTree) (path : String) :
    Failure → Prop where
  | undecodable {fault : Text.Utf8Fault} (reads : files.readText path = .error (.undecodable fault)) :
      Escapes overruns files path (.foreign "UnicodeDecodeError" fault.message)
  | unusable {text : Text} {failure : Failure} (reads : files.readText path = .ok text)
      (parses : Yaml.read text = .error (.unusable failure)) : Escapes overruns files path failure
  | overruns {text : Text} {content : Yaml.Content} {failure : Failure}
      (reads : files.readText path = .ok text) (parses : Yaml.read text = .ok content)
      (overrun : overruns content.value failure) : Escapes overruns files path failure

/-- The text of a value with a number that is too long cannot be made. -/
inductive Overlong (value : Value) : Failure → Prop where
  | intro (long : value.hasLong = true) : Overlong value (.badValue Value.tooLong)

theorem Overlong.whole {value part : Value} {failure : Failure}
    (long : part.hasLong = true → value.hasLong = true) (overlong : Overlong part failure) :
    Overlong value failure := by
  cases overlong with
  | intro partLong => exact .intro (long partLong)

theorem ends_written (value : Value) : Ends value.written (fun _ => True) (Overlong value) := by
  rw [Value.written]
  split
  · rename_i long
    exact .intro long
  · exact trivial

/-! ## The configuration -/

namespace Config

/-- A configuration with a directory and a title that are not blank, and with chunks of one image at
least. -/
structure IsValid (config : Config) : Prop where
  directory : isBlankText config.docsDirectory = false
  title : isBlankText config.title = false
  chunk : 1 ≤ config.chunkSize

/-- Numbers that a configuration cannot have: one that is too long to be shown, and an infinite number
of images. -/
inductive Overruns (value : Value) : Failure → Prop where
  | tooLong {failure : Failure} (overlong : Overlong value failure) : Overruns value failure
  | infinite {number : Float} {negative : Bool}
      (isNumber : value.get? "image_chunk_size" = some (.float number))
      (isInfinite : Decimal.Binary.ofFloat number = .infinite negative) :
      Overruns value (.foreign "OverflowError" "cannot convert float infinity to integer")

/-- How reading a configuration from a value fails. -/
def Fails (value : Value) (failure : Failure) : Prop :=
  (∃ note field, failure = .of (.config note field)) ∨ Overruns value failure

variable {value : Value}

theorem fails_refused (note : String) : Fails value (refused note) :=
  .inl ⟨note, none, rfl⟩

theorem fails_refusedField (field note : String) : Fails value (refusedField field note) :=
  .inl ⟨note, some field, rfl⟩

theorem ends_docsDirectoryOf (value : Value) :
    Ends (docsDirectoryOf value) (fun directory => isBlankText directory = false) (Fails value) := by
  rw [docsDirectoryOf]
  split
  · exact fails_refused _
  · split
    · exact fails_refusedField _ _
    · rename_i given
      exact Bool.eq_false_iff.mpr given
  · exact fails_refusedField _ _

theorem ends_titleOf (value : Value) : Ends (titleOf value) (fun _ => True) (Fails value) := by
  rw [titleOf]
  cases ((value.get? "document_title").getD (.str default.title)).written with
  | ok title => exact trivial
  | error failure => exact fails_refused _

theorem ends_writtenNumber (given : Value) (text : Text) :
    Ends (writtenNumber given text) (fun number => Value.isLong number = false) (Fails value) := by
  rw [writtenNumber]
  split
  · exact fails_refused _
  · rename_i short reads
    exact Decimal.not_isLong_of_readWhole? short reads
  · exact fails_refused _

theorem ends_wholeNumber {given : Value}
    (isGiven : ∀ number, given = .float number → value.get? "image_chunk_size" = some given)
    (long : given.hasLong = true → value.hasLong = true) :
    Ends (wholeNumber given) (fun number => Value.isLong number = true → value.hasLong = true)
      (Fails value) := by
  have short {number : Int} (isShort : Value.isLong number = false) :
      Value.isLong number = true → value.hasLong = true := by
    intro isLong
    rw [isShort] at isLong
    cases isLong
  unfold wholeNumber
  split
  · exact long
  · rename_i flag
    exact short (Value.not_isLong_of_lt_hundred (by cases flag <;> decide))
  · rename_i number
    split
    · exact fails_refused _
    · rename_i negative isInfinite
      exact .inr (.infinite (isGiven number rfl) isInfinite)
    · cases cuts : (Decimal.Binary.ofFloat number).wholePart? with
      | none => exact short (Value.not_isLong_of_lt_hundred (by decide))
      | some whole => exact short (Decimal.not_isLong_of_wholePart? cuts)
  · exact (ends_writtenNumber _ _).mono (fun _ => short) fun _ fails => fails
  · exact (ends_writtenNumber _ _).mono (fun _ => short) fun _ fails => fails
  · exact fails_refused _

theorem ends_textList (value : Value) (field : String) (default : List String) :
    Ends (textList value field default) (fun _ => True) (Fails value) := by
  unfold textList
  split
  · exact trivial
  · rename_i items isList
    refine Ends.mapM fun item mem => (ends_written item).mono (fun _ _ => trivial) ?_
    intro failure overlong
    refine .inr (.tooLong (overlong.whole fun long => ?_))
    have listLong : (value.part field).hasLong = true := by
      rw [isList]
      exact Value.hasLong_of_mem mem long
    exact Value.hasLong_of_part listLong
  · exact fails_refusedField _ _

theorem fails_tooSmall {number : Int} (long : Value.isLong number = true → value.hasLong = true) :
    Fails value (tooSmall number) := by
  rw [tooSmall]
  split
  · rename_i isLong
    exact .inr (.tooLong (.intro (long isLong)))
  · exact fails_refusedField _ _

theorem ends_chunkSize (value : Value) :
    Ends (wholeNumber ((value.get? "image_chunk_size").getD (.int default.chunkSize)))
      (fun number => Value.isLong number = true → value.hasLong = true) (Fails value) := by
  cases isGiven : value.get? "image_chunk_size" with
  | none =>
      have short : Value.isLong default.chunkSize = false := Value.not_isLong_of_lt_hundred (by decide)
      intro long
      rw [short] at long
      cases long
  | some given => exact ends_wholeNumber (fun _ _ => isGiven) (Value.hasLong_of_get? isGiven)

/-- A value gives a valid configuration or is refused, if its numbers are not to blame. -/
theorem ends_ofValue (value : Value) : Ends (ofValue value) IsValid (Fails value) := by
  refine .bind ((ends_docsDirectoryOf value).mono (fun directory named => ?_) fun _ fails => fails)
  refine .bind ((ends_titleOf value).mono (fun title _ => ?_) fun _ fails => fails)
  refine .bind ((ends_chunkSize value).mono (fun number long => ?_) fun _ fails => fails)
  dsimp only
  split
  · exact fails_refusedField _ _
  · rename_i titled
    split
    · exact fails_tooSmall long
    · rename_i many
      have isValid (languages files excluded : List String) :
          IsValid ⟨directory, title, number, languages, files, excluded⟩ :=
        ⟨named, Bool.eq_false_iff.mpr titled, Int.not_lt.mp many⟩
      refine .bind ((ends_textList ..).mono (fun languages _ => ?_) fun _ fails => fails)
      refine .bind ((ends_textList ..).mono (fun files _ => ?_) fun _ fails => fails)
      exact .bind ((ends_textList ..).mono (fun excluded _ => isValid ..) fun _ fails => fails)

theorem ends_load (files : FileTree) (path : String) :
    Ends (load files path) IsValid fun failure =>
      Told .filesystem .config path failure ∨ Escapes Overruns files path failure := by
  unfold load
  split
  · exact .inl (.unread _)
  · exact .inl (.unread _)
  · rename_i fault reads
    exact .inr (.undecodable reads)
  · rename_i text reads
    unfold ofText
    split
    · exact .inl (.refused _ _)
    · rename_i failure parses
      exact .inr (.unusable reads parses)
    · rename_i content parses
      split
      · exact .inl (.refused _ _)
      · rename_i entries isMapping
        refine (ends_ofValue _).mono (fun _ isValid => isValid) ?_
        rintro failure (⟨note, field, rfl⟩ | overrun)
        · exact .inl (.refused note field)
        · exact .inr (.overruns reads parses (isMapping ▸ overrun))
      · exact .inl (.refused _ _)

end Config

/-! ## The state -/

namespace StateFile

open Sync (State)

/-- A text without blanks around it that is not empty. -/
def IsTrimmed (text : String) : Prop :=
  text.toList ≠ [] ∧ Text.strip text.toList = text.toList

/-- A state without blanks around what it says of the project. -/
structure Tidy (state : State) : Prop where
  rootId : ∀ text, state.rootId = some text → IsTrimmed text
  rootUrl : ∀ text, state.rootUrl = some text → IsTrimmed text
  lastSynced : ∀ text, state.lastSynced = some text → IsTrimmed text

theorem tidy_empty : Tidy .empty :=
  ⟨by rintro _ ⟨⟩, by rintro _ ⟨⟩, by rintro _ ⟨⟩⟩

/-- How reading a state from a value fails. -/
def Fails (value : Value) (failure : Failure) : Prop :=
  (∃ note field, failure = .of (.state note field)) ∨ Overlong value failure

variable {value : Value}

theorem fails_refusedField (field note : String) : Fails value (refusedField field note) :=
  .inl ⟨note, some field, rfl⟩

theorem fails_overlong {part : Value} (long : part.hasLong = true → value.hasLong = true)
    {failure : Failure} (overlong : Overlong part failure) : Fails value failure :=
  .inr (overlong.whole long)

theorem ends_rootField (value : Value) (field : String) :
    Ends (rootField value field) (fun given => ∀ text, given = some text → IsTrimmed text)
      (Fails value) := by
  unfold rootField
  split
  · rintro _ ⟨⟩
  · rename_i text _
    dsimp only
    split
    · rintro _ ⟨⟩
    · rename_i some
      rintro _ ⟨⟩
      rw [IsTrimmed, String.toList_ofList, ← List.isEmpty_eq_false_iff]
      exact ⟨Bool.eq_false_iff.mpr some, Text.strip_strip _⟩
  · exact fails_refusedField _ _

theorem ends_part (value : Value) (field : String) :
    Ends (value.part field).written (fun _ => True) (Overlong value) :=
  (ends_written _).mono (fun _ _ => trivial) fun _ overlong => overlong.whole Value.hasLong_of_part

theorem ends_recordOfParts (value : Value) :
    Ends (recordOfParts value) (fun _ => True) (Overlong value) := by
  refine .bind ((ends_part value "hash").mono (fun _ _ => ?_) fun _ fails => fails)
  refine .bind ((ends_part value "document_id").mono (fun _ _ => ?_) fun _ fails => fails)
  have optional (field : String) :
      Ends (textOrNothing value field) (fun _ => True) (Overlong value) := by
    rw [textOrNothing]
    split
    · exact trivial
    · exact ends_part value field
  refine .bind ((optional "last_synced").mono (fun _ _ => ?_) fun _ fails => fails)
  exact .bind ((optional "title").mono (fun _ _ => trivial) fun _ fails => fails)

theorem fails_refusedEntry {path : Value} (long : path.hasLong = true → value.hasLong = true)
    (note : String) : Fails value (refusedEntry path note) := by
  have shows := ends_written path
  rw [refusedEntry]
  cases written : path.written with
  | ok shown => exact fails_refusedField _ _
  | error failure =>
      rw [written] at shows
      exact fails_overlong long shows

theorem ends_recordOf {path entry : Value} (pathLong : path.hasLong = true → value.hasLong = true)
    (entryLong : entry.hasLong = true → value.hasLong = true) :
    Ends (recordOf path entry) (fun _ => True) (Fails value) := by
  unfold recordOf
  split
  · dsimp only
    split
    · exact .map ((ends_recordOfParts _).mono (fun _ _ => trivial) fun _ overlong =>
        fails_overlong entryLong overlong)
    · exact fails_refusedEntry pathLong _
  · exact fails_refusedEntry pathLong _

theorem ends_recordsOf {records : Value} (long : records.hasLong = true → value.hasLong = true) :
    Ends (recordsOf records) (fun _ => True) (Fails value) := by
  unfold recordsOf
  split
  · exact trivial
  · split
    · rename_i entries _
      exact .mapM fun entry mem =>
        ends_recordOf (fun keyLong => long (Value.hasLong_of_entry mem (.inl keyLong)))
          fun entryLong => long (Value.hasLong_of_entry mem (.inr entryLong))
    · exact fails_refusedField _ _

/-- A value gives a tidy state or is refused, if its numbers are not to blame. -/
theorem ends_ofValue (value : Value) : Ends (ofValue value) Tidy (Fails value) := by
  refine .bind ((ends_rootField value _).mono (fun rootId isId => ?_) fun _ fails => fails)
  refine .bind ((ends_rootField value _).mono (fun rootUrl isUrl => ?_) fun _ fails => fails)
  refine .bind ((ends_rootField value _).mono (fun lastSynced isLast => ?_) fun _ fails => fails)
  refine .bind ((ends_recordsOf Value.hasLong_of_part).mono (fun records _ => ?_) fun _ fails => fails)
  exact ⟨isId, isUrl, isLast⟩

theorem ends_load (files : FileTree) (path : String) :
    Ends (load files path) Tidy fun failure =>
      Told .stateFilesystem .state path failure ∨ Escapes Overlong files path failure := by
  unfold load
  split
  · exact tidy_empty
  · exact .inl (.unread _)
  · rename_i fault reads
    exact .inr (.undecodable reads)
  · rename_i text reads
    unfold ofText
    split
    · exact tidy_empty
    · split
      · exact .inl (.refused _ _)
      · rename_i failure parses
        exact .inr (.unusable reads parses)
      · rename_i content parses
        split
        · exact tidy_empty
        · rename_i entries isMapping
          refine (ends_ofValue _).mono (fun _ tidy => tidy) ?_
          rintro failure (⟨note, field, rfl⟩ | overrun)
          · exact .inl (.refused note field)
          · exact .inr (.overruns reads parses (isMapping ▸ overrun))
        · exact .inl (.refused _ _)

end StateFile

/-- Whatever files there are: a configuration that loads is valid and a state that loads is tidy. What
does not load is told by name, unless it is no text, has no value, or has a number that cannot be had. -/
theorem settles_load (files : FileTree) (path : String) :
    Ends (Config.load files path) Config.IsValid (fun failure =>
      Told .filesystem .config path failure ∨ Escapes Config.Overruns files path failure) ∧
    Ends (StateFile.load files path) StateFile.Tidy (fun failure =>
      Told .stateFilesystem .state path failure ∨ Escapes Overlong files path failure) :=
  ⟨Config.ends_load files path, StateFile.ends_load files path⟩

/-- A file of one byte that is no text. -/
def illegible : FileTree :=
  ⟨["home"], [(["home"], .directory), (["home", "file.yaml"], .file ⟨#[0xff]⟩)]⟩

/-- Bytes that are no text are told by name neither of a configuration nor of a state. -/
theorem not_all_told :
    ¬ (∀ files path, Ends (Config.load files path) Config.IsValid (Told .filesystem .config path)) ∧
    ¬ (∀ files path, Ends (StateFile.load files path) StateFile.Tidy
        (Told .stateFilesystem .state path)) := by
  have reads : ∃ fault, illegible.readText "file.yaml" = .error (.undecodable fault) := ⟨_, rfl⟩
  rcases reads with ⟨fault, reads⟩
  constructor
  · intro told
    have ends := told illegible "file.yaml"
    rw [Config.load, reads] at ends
    cases ends
  · intro told
    have ends := told illegible "file.yaml"
    rw [StateFile.load, reads] at ends
    cases ends

end DocBinder.Project
