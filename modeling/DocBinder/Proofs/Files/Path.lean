import DocBinder.Files.Path
import DocBinder.Proofs.Text.Lines

/-!
# Paths and their names

A path is cut into names, and names are put together to a path. Both undo each other as long as no
name is empty or holds a slash, so that what is said of paths as texts can be said of their names: a
path with a slash behind it begins another path exactly when its names lead on to those of the other
one.
-/

namespace DocBinder

namespace Text

variable {separator : Char}

theorem append_cons_isPrefix_iff {first second : Text} (firstFree : separator ∉ first)
    (secondFree : separator ∉ second) (rest others : Text) :
    first ++ separator :: rest <+: second ++ separator :: others ↔ first = second ∧ rest <+: others := by
  constructor
  · rintro ⟨behind, same⟩
    rw [List.append_assoc, List.cons_append] at same
    rcases append_cons_inj firstFree secondFree same with ⟨rfl, further⟩
    exact ⟨rfl, behind, further⟩
  · rintro ⟨rfl, behind, same⟩
    exact ⟨behind, by rw [← same, List.append_assoc, List.cons_append]⟩

/-- Pieces that are joined, with a separator behind them, begin what is joined of others exactly when
the others go on behind them. -/
theorem join_append_isPrefix_iff {front pieces : List Text} (nonempty : front ≠ [])
    (frontFree : ∀ piece ∈ front, separator ∉ piece) (free : ∀ piece ∈ pieces, separator ∉ piece) :
    join [separator] front ++ [separator] <+: join [separator] pieces ↔
      front <+: pieces ∧ front ≠ pieces := by
  induction front generalizing pieces with
  | nil => exact absurd rfl nonempty
  | cons piece front step =>
      have own := frontFree piece List.mem_cons_self
      rcases pieces with _ | ⟨first, rest⟩
      · simp [join]
      · have firstFree := free first List.mem_cons_self
        by_cases single : front = []
        · subst single
          by_cases last : rest = []
          · subst last
            have never : ¬ piece ++ [separator] <+: first := fun begins =>
              firstFree (begins.subset (by simp))
            simpa [join] using never
          · rw [join_cons separator first last, join, append_cons_isPrefix_iff own firstFree,
              List.cons_prefix_cons]
            simp [Ne.symm last]
        · have opened : join [separator] (piece :: front) ++ [separator] =
              piece ++ separator :: (join [separator] front ++ [separator]) := by
            rw [join_cons separator piece single, List.append_assoc, List.cons_append]
          rw [opened, List.cons_prefix_cons]
          by_cases last : rest = []
          · subst last
            have never : ¬ piece ++ separator :: (join [separator] front ++ [separator]) <+: first :=
              fun begins => firstFree (begins.subset (by simp))
            simp [join, never, single]
          · rw [join_cons separator first last, append_cons_isPrefix_iff own firstFree,
              step single (fun other mem => frontFree other (List.mem_cons_of_mem _ mem))
                fun other mem => free other (List.mem_cons_of_mem _ mem)]
            constructor
            · rintro ⟨same, begins, differs⟩
              exact ⟨⟨same, begins⟩, fun same => differs (List.cons.inj same).2⟩
            · rintro ⟨⟨rfl, begins⟩, differs⟩
              exact ⟨rfl, begins, fun same => differs (congrArg _ same)⟩

theorem join_eq_intercalate (separator : Text) (pieces : List Text) :
    join separator pieces = separator.intercalate pieces := by
  induction pieces with
  | nil => rfl
  | cons piece rest step =>
      cases rest with
      | nil => simp [join]
      | cons next others =>
          rw [join, step, List.intercalate_cons_cons]
          exact List.cons_ne_nil next others

end Text

namespace Path

/-! ## Names -/

/-- What a path is cut into, apart from what stands for the current directory. -/
structure IsStep (name : String) : Prop where
  nonempty : name ≠ ""
  whole : '/' ∉ name.toList
  leads : name ≠ "."

/-- A name that a file or a directory can have. -/
structure IsName (name : String) : Prop extends IsStep name where
  down : name ≠ ".."

variable {name path : String} {names : List String}

theorem mem_names (mem : name ∈ Path.names path) : name ≠ "" ∧ '/' ∉ name.toList := by
  rcases List.mem_map.mp mem with ⟨piece, isPiece, rfl⟩
  rcases List.mem_filter.mp isPiece with ⟨isPiece, nonempty⟩
  constructor
  · rintro same
    rw [String.ofList_eq_empty_iff.mp same] at nonempty
    cases nonempty
  · rw [String.toList_ofList]
    exact Text.not_mem_of_mem_splitOn isPiece

theorem isStep_of_mem_steps (mem : name ∈ steps path) : IsStep name := by
  rcases List.mem_filter.mp mem with ⟨mem, leads⟩
  rcases mem_names mem with ⟨nonempty, whole⟩
  exact ⟨nonempty, whole, bne_iff_ne.mp leads⟩

theorem toList_intercalate (names : List String) :
    ("/".intercalate names).toList = Text.join ['/'] (names.map String.toList) := by
  rw [String.toList_intercalate, Text.join_eq_intercalate]
  rfl

theorem head?_intercalate (areSteps : ∀ name ∈ names, IsStep name) :
    ("/".intercalate names).toList.head? = names.head?.bind (·.toList.head?) := by
  rcases names with _ | ⟨first, rest⟩
  · rfl
  · rw [toList_intercalate, List.map_cons, Text.join_eq_intercalate]
    have nonempty : first.toList ≠ [] := fun same =>
      (areSteps first List.mem_cons_self).nonempty (String.toList_eq_nil_iff.mp same)
    rcases List.exists_cons_of_ne_nil nonempty with ⟨character, others, split⟩
    cases rest <;> simp [split]

/-- A path of steps does not begin with a slash. -/
theorem head?_intercalate_ne (areSteps : ∀ name ∈ names, IsStep name) :
    ("/".intercalate names).toList.head? ≠ some '/' := by
  rw [head?_intercalate areSteps]
  rcases names with _ | ⟨first, rest⟩
  · exact nofun
  · exact fun begins =>
      (areSteps first List.mem_cons_self).whole (List.mem_of_mem_head? begins)

theorem splitOn_intercalate (areSteps : ∀ name ∈ names, IsStep name) :
    (Text.splitOn '/' ("/".intercalate names).toList).filter (fun name => !name.isEmpty) =
      names.map String.toList := by
  rw [toList_intercalate]
  rcases names with _ | ⟨first, rest⟩
  · rfl
  · have whole : ∀ piece ∈ (first :: rest).map String.toList, '/' ∉ piece := by
      intro piece isPiece
      rcases List.mem_map.mp isPiece with ⟨name, mem, rfl⟩
      exact (areSteps name mem).whole
    rw [Text.splitOn_join (by simp) whole, List.filter_eq_self]
    intro piece isPiece
    rcases List.mem_map.mp isPiece with ⟨name, mem, rfl⟩
    simpa using (areSteps name mem).nonempty

theorem map_ofList_toList (names : List String) : (names.map String.toList).map String.ofList = names := by
  simp

/-- A path of steps is cut into them. -/
theorem steps_intercalate (areSteps : ∀ name ∈ names, IsStep name) :
    steps ("/".intercalate names) = names := by
  rw [steps, Path.names, splitOn_intercalate areSteps, map_ofList_toList, List.filter_eq_self]
  exact fun name mem => bne_iff_ne.mpr (areSteps name mem).leads

theorem steps_relative (areSteps : ∀ name ∈ names, IsStep name) : steps (relative names) = names := by
  rw [relative]
  split
  · rename_i none
    rw [List.isEmpty_iff.mp none]
    decide
  · exact steps_intercalate areSteps

/-! ## Tidy paths -/

theorem anchor_eq_empty (begins : path.toList.head? ≠ some '/') : anchor path = "" := by
  rw [anchor]
  split <;> rename_i split
  · exact absurd (by rw [split]; rfl) begins
  · exact absurd (by rw [split]; rfl) begins
  · exact absurd (by rw [split]; rfl) begins
  · rfl

theorem anchor_relative (areSteps : ∀ name ∈ names, IsStep name) : anchor (relative names) = "" := by
  rw [relative]
  split
  · decide
  · exact anchor_eq_empty (head?_intercalate_ne areSteps)

theorem tidy_relative (areSteps : ∀ name ∈ names, IsStep name) :
    tidy (relative names) = relative names := by
  rw [tidy, anchor_relative areSteps, steps_relative areSteps]
  rfl

variable {root : String}

/-- Going up and down from the root only leads along names. -/
theorem isName_of_mem_collapse {taken : List String} (areNames : ∀ name ∈ taken, IsName name)
    (areSteps : ∀ name ∈ names, IsStep name) : ∀ name ∈ collapse true taken names, IsName name := by
  induction names generalizing taken with
  | nil => simpa [collapse] using areNames
  | cons first rest step =>
      have further : ∀ name ∈ rest, IsStep name := fun name mem =>
        areSteps name (List.mem_cons_of_mem _ mem)
      by_cases down : first = ".."
      · subst down
        rcases taken with _ | ⟨last, before⟩
        · exact step nofun further
        · have notUp : last ≠ ".." := (areNames last List.mem_cons_self).down
          simp only [collapse, bne_self_eq_false, Bool.false_eq_true, if_false,
            beq_eq_false_iff_ne.mpr notUp]
          exact step (fun name mem => areNames name (List.mem_cons_of_mem _ mem)) further
      · have taken : collapse true taken (first :: rest) = collapse true (first :: taken) rest := by
          cases taken <;> simp [collapse, down]
        rw [taken]
        refine step (fun name mem => ?_) further
        rcases List.mem_cons.mp mem with rfl | mem
        · exact ⟨areSteps name List.mem_cons_self, down⟩
        · exact areNames name mem

theorem isName_of_mem_absoluteNames {home : List String} (rooted : ∀ name ∈ home, IsName name)
    (path : String) : ∀ name ∈ absoluteNames home path, IsName name := by
  refine isName_of_mem_collapse nofun fun name mem => ?_
  split at mem
  · exact isStep_of_mem_steps mem
  · rcases List.mem_append.mp mem with mem | mem
    · exact (rooted name mem).toIsStep
    · exact isStep_of_mem_steps mem

/-- The steps that lead from a directory to a place, both given by their names from the root. -/
def way (origin target : List String) : List String :=
  List.replicate (origin.length - commonLength origin target) ".." ++
    target.drop (commonLength origin target)

theorem relativeTo_eq (home : List String) (path start : String) :
    relativeTo home path start = relative (way (absoluteNames home start) (absoluteNames home path)) :=
  rfl

theorem commonLength_eq_iff {origin target : List String} :
    commonLength origin target = origin.length ↔ origin <+: target := by
  induction origin generalizing target with
  | nil => simp [commonLength]
  | cons first origin step =>
      rcases target with _ | ⟨other, target⟩
      · simp [commonLength]
      · by_cases same : first = other
        · simp [commonLength, same, step, List.cons_prefix_cons]
        · simp [commonLength, same, List.cons_prefix_cons]

theorem commonLength_le (origin target : List String) : commonLength origin target ≤ origin.length := by
  induction origin generalizing target with
  | nil => simp [commonLength]
  | cons first origin step =>
      rcases target with _ | ⟨other, target⟩
      · simp [commonLength]
      · rw [commonLength]
        split
        · exact Nat.succ_le_succ (step target)
        · exact Nat.zero_le _

/-- The way to a place inside a directory goes down only. -/
theorem way_of_prefix {origin target : List String} (inside : origin <+: target) :
    way origin target = target.drop origin.length := by
  rw [way, commonLength_eq_iff.mpr inside, Nat.sub_self]
  rfl

/-- The way to a place outside a directory begins by going up. -/
theorem head?_way_of_not_prefix {origin target : List String} (outside : ¬ origin <+: target) :
    (way origin target).head? = some ".." := by
  have less : commonLength origin target < origin.length :=
    Nat.lt_of_le_of_ne (commonLength_le origin target) (mt commonLength_eq_iff.mp outside)
  rw [way, show origin.length - commonLength origin target =
    (origin.length - commonLength origin target - 1) + 1 by omega]
  rfl

theorem isStep_of_mem_way {origin target : List String} (areNames : ∀ name ∈ target, IsName name) :
    ∀ name ∈ way origin target, IsStep name := by
  intro name mem
  rcases List.mem_append.mp mem with mem | mem
  · rw [List.eq_of_mem_replicate mem]
    exact ⟨by decide, by decide, by decide⟩
  · exact (areNames name (List.mem_of_mem_drop mem)).toIsStep

/-! ## What a path of steps begins with -/

/-- A path of steps begins with two dots exactly when its first step does. -/
theorem startsWith_dots (areSteps : ∀ name ∈ names, IsStep name) :
    Text.startsWith (relative names).toList ['.', '.'] =
      names.head?.any fun name => Text.startsWith name.toList ['.', '.'] := by
  rcases names with _ | ⟨first, rest⟩
  · decide
  · rcases rest with _ | ⟨next, rest⟩
    · rfl
    · have opened : (relative (first :: next :: rest)).toList =
          first.toList ++ '/' :: Text.join ['/'] ((next :: rest).map String.toList) := by
        rw [relative, if_neg (by simp), toList_intercalate, List.map_cons,
          Text.join_cons '/' _ (by simp)]
      rw [opened, List.head?_cons, Option.any_some]
      rcases first.toList with _ | ⟨character, _ | ⟨other, others⟩⟩ <;>
        simp [Text.startsWith, List.isPrefixOf]

/-- A path of steps lies below another one exactly when its steps go on behind those of the other. -/
theorem startsWith_slash {front : List String} (nonempty : front ≠ [])
    (frontSteps : ∀ name ∈ front, IsStep name) (areSteps : ∀ name ∈ names, IsStep name) :
    Text.startsWith (relative names).toList ((relative front).toList ++ ['/']) = true ↔
      front <+: names ∧ front ≠ names := by
  have whole {others : List String} (areSteps : ∀ name ∈ others, IsStep name) :
      ∀ piece ∈ others.map String.toList, '/' ∉ piece := by
    intro piece isPiece
    rcases List.mem_map.mp isPiece with ⟨name, mem, rfl⟩
    exact (areSteps name mem).whole
  have injective : Function.Injective String.toList := fun _ _ => String.toList_inj.mp
  rw [Text.startsWith, List.isPrefixOf_iff_prefix, relative, relative,
    if_neg (by simpa using nonempty), toList_intercalate]
  split
  · rename_i none
    rw [List.isEmpty_iff.mp none]
    constructor
    · exact fun begins => absurd (begins.subset (by simp)) (show '/' ∉ ".".toList by decide)
    · exact fun begins => absurd (List.prefix_nil.mp begins.1) nonempty
  · rw [toList_intercalate, Text.join_append_isPrefix_iff (by simpa using nonempty) (whole frontSteps)
      (whole areSteps), List.prefix_map_iff_of_injective injective,
      (List.map_injective_iff.mpr injective).ne_iff]

end Path

end DocBinder
