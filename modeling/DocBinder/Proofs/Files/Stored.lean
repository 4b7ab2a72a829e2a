import DocBinder.Files.Store
import DocBinder.Proofs.Steps
import DocBinder.Proofs.Text.Lines
import DocBinder.Proofs.Text.Utf8

/-!
# What is stored reads back

Where a path leads is found by a walk along its names and along the links on the way. A walk stays the
same when a file is put in a place that it does not go through, and a link is not gone through that
leads nowhere. So a path at which a text was stored leads to this text afterwards, also through a link
whose target did not exist before.
-/

namespace DocBinder

/-! ## Paths and their directories -/

namespace Path

theorem steps_append_slash (front back : Text) :
    steps (String.ofList (front ++ '/' :: back)) =
      steps (String.ofList front) ++ steps (String.ofList back) := by
  simp only [steps, names, String.toList_ofList, Text.splitOn_append_cons_append, List.filter_append,
    List.map_append]

theorem steps_slashes_append {slashes : Text} (areSlashes : ∀ character ∈ slashes, character = '/')
    (back : Text) : steps (String.ofList (slashes ++ back)) = steps (String.ofList back) := by
  induction slashes with
  | nil => rfl
  | cons character slashes step =>
      have isSlash := areSlashes character List.mem_cons_self
      subst isSlash
      exact (steps_append_slash [] (slashes ++ back)).trans
        (step fun other mem => areSlashes other (List.mem_cons_of_mem _ mem))

theorem steps_of_not_mem {name : Text} (whole : '/' ∉ name) :
    steps (String.ofList name) = [] ∨ steps (String.ofList name) = [String.ofList name] := by
  rw [steps, names, String.toList_ofList, Text.splitOn_of_not_mem whole]
  cases name with
  | nil => exact .inl rfl
  | cons character name =>
      by_cases isHere : String.ofList (character :: name) = "."
      · exact .inl (by simp [isHere])
      · refine .inr ?_
        have isOther : (String.ofList (character :: name) != ".") = true := bne_iff_ne.mpr isHere
        simp only [List.filter_cons, List.isEmpty_cons, Bool.not_false, if_true, List.filter_nil,
          List.map_cons, List.map_nil, isOther]

/-- The directory in which the last name of a path stands. -/
def lead (path : String) : String :=
  if (directoryOf path).isEmpty then "." else directoryOf path

theorem exists_directoryOf (path : String) : ∃ front slashes name : Text,
    path.toList = front ++ slashes ++ name ∧ '/' ∉ name ∧ (∀ character ∈ slashes, character = '/') ∧
      (slashes = [] → front = []) ∧
      directoryOf path = String.ofList (if front.isEmpty then slashes else front) := by
  have parts := List.takeWhile_append_dropWhile (p := (· != '/')) (l := path.toList.reverse)
  generalize isName : path.toList.reverse.takeWhile (· != '/') = name at parts
  have opens := List.head?_dropWhile_not (· != '/') path.toList.reverse
  generalize path.toList.reverse.dropWhile (· != '/') = head at parts opens
  have isPath : path.toList = head.reverse ++ name.reverse := by
    rw [← List.reverse_append, parts, List.reverse_reverse]
  have isHead : path.toList.take (path.toList.length - name.length) = head.reverse := by
    rw [isPath]
    simp
  have split := List.takeWhile_append_dropWhile (p := (· == '/')) (l := head)
  refine ⟨(head.dropWhile (· == '/')).reverse, (head.takeWhile (· == '/')).reverse, name.reverse,
    ?_, ?_, ?_, ?_, ?_⟩
  · rw [← List.reverse_append, split, isPath]
  · intro mem
    rw [List.mem_reverse, ← isName] at mem
    exact absurd (List.mem_takeWhile_imp mem) (by simp)
  · intro character mem
    rw [List.mem_reverse] at mem
    simpa using List.mem_takeWhile_imp mem
  · intro isEmpty
    rw [List.reverse_eq_nil_iff] at isEmpty ⊢
    cases head with
    | nil => rfl
    | cons character rest =>
        have isSlash : character = '/' := by simpa using opens
        rw [isSlash, List.takeWhile_cons_of_pos (by rfl)] at isEmpty
        cases isEmpty
  · rw [directoryOf, isName, isHead, List.reverse_reverse]
    by_cases isRoot : (head.dropWhile (· == '/')).reverse.isEmpty
    · rw [if_pos isRoot, if_pos isRoot]
      rw [List.isEmpty_iff, List.reverse_eq_nil_iff] at isRoot
      rw [isRoot, List.append_nil] at split
      rw [split]
    · rw [if_neg isRoot, if_neg isRoot]

theorem isAbsolute_ofList (text : Text) : isAbsolute (String.ofList text) = (text.head? == some '/') := by
  rw [isAbsolute, String.toList_ofList]
  cases text with
  | nil => rfl
  | cons character text => simp [List.isPrefixOf, eq_comm]

/-- A path leads on from its directory by no more than one step. -/
theorem exists_steps_lead (path : String) : isAbsolute (lead path) = isAbsolute path ∧
    (steps path = steps (lead path) ∨ ∃ name, steps path = steps (lead path) ++ [name]) := by
  rcases exists_directoryOf path with ⟨front, slashes, name, isPath, whole, areSlashes, closed, isDirectory⟩
  have isWhole : path = String.ofList (front ++ slashes ++ name) := by
    rw [← isPath, String.ofList_toList]
  have named : steps path = steps (lead path) ++ steps (String.ofList name) ∧
      isAbsolute (lead path) = isAbsolute path := by
    cases slashes with
    | nil =>
        rw [closed rfl] at isDirectory isWhole
        have isHere : lead path = "." := by
          rw [lead, isDirectory]
          rfl
        rw [isHere, isWhole]
        refine ⟨rfl, ?_⟩
        have begins : name.head? ≠ some '/' := fun begins => whole (List.mem_of_mem_head? begins)
        have isRelative : isAbsolute (String.ofList name) = false := by
          rw [isAbsolute_ofList]
          exact beq_eq_false_iff_ne.mpr begins
        exact isRelative.symm
    | cons slash slashes =>
        have isSlash := areSlashes slash List.mem_cons_self
        subst isSlash
        have later : ∀ character ∈ slashes, character = '/' := fun character mem =>
          areSlashes character (List.mem_cons_of_mem _ mem)
        have isLead : lead path = directoryOf path := by
          rw [lead, if_neg]
          rw [isDirectory]
          cases front <;> simp
        have isSteps : steps path = steps (String.ofList front) ++ steps (String.ofList name) := by
          rw [isWhole, List.append_assoc, List.cons_append, steps_append_slash,
            steps_slashes_append later]
        rw [isLead, isDirectory, isSteps, isWhole, isAbsolute_ofList, isAbsolute_ofList]
        cases front with
        | nil =>
            have none : steps (String.ofList ('/' :: slashes)) = [] := by
              have slashed := steps_slashes_append areSlashes []
              rwa [List.append_nil] at slashed
            exact ⟨by rw [List.isEmpty_nil, if_pos rfl, none]; rfl, rfl⟩
        | cons character front => exact ⟨rfl, rfl⟩
  refine ⟨named.2, ?_⟩
  rw [named.1]
  rcases steps_of_not_mem whole with isEmpty | isName
  · exact .inl (by rw [isEmpty, List.append_nil])
  · exact .inr ⟨_, by rw [isName]⟩

end Path

/-! ## Walks -/

namespace FileTree

open DocBinder.Path (steps isAbsolute)

variable {tree : FileTree}

section Lookup

variable {spot names : List String} {node : Node} {entries : List (List String × Node)}

theorem lookup_cons_of_ne {first : List String} {found : Node} (differs : names ≠ first) :
    List.lookup names ((first, found) :: entries) = entries.lookup names := by
  rw [List.lookup_cons, beq_eq_false_iff_ne.mpr differs]

theorem lookup_replace_of_ne (differs : names ≠ spot) :
    (entries.map fun entry => if entry.1 == spot then (spot, node) else entry).lookup names =
      entries.lookup names := by
  induction entries with
  | nil => rfl
  | cons entry rest step =>
      rcases entry with ⟨first, found⟩
      rw [List.map_cons]
      by_cases isSpot : first = spot
      · rw [if_pos (beq_iff_eq.mpr isSpot), lookup_cons_of_ne differs, step,
          lookup_cons_of_ne (isSpot ▸ differs)]
      · rw [if_neg (mt beq_iff_eq.mp isSpot), List.lookup_cons, List.lookup_cons, step]

theorem lookup_replace_self (stands : (entries.lookup spot).isSome) :
    (entries.map fun entry => if entry.1 == spot then (spot, node) else entry).lookup spot =
      some node := by
  induction entries with
  | nil => cases stands
  | cons entry rest step =>
      rcases entry with ⟨first, found⟩
      rw [List.map_cons]
      by_cases isSpot : first = spot
      · rw [if_pos (beq_iff_eq.mpr isSpot), List.lookup_cons_self]
      · rw [lookup_cons_of_ne (Ne.symm isSpot)] at stands
        rw [if_neg (mt beq_iff_eq.mp isSpot), lookup_cons_of_ne (Ne.symm isSpot), step stands]

end Lookup

theorem node?_put (tree : FileTree) (spot : List String) (node : Node) (names : List String) :
    (tree.put spot node).node? names = if names = spot then some node else tree.node? names := by
  have isNode : (tree.put spot node).nodes.lookup names =
      if names = spot then some node else tree.nodes.lookup names := by
    simp only [put]
    by_cases stands : (tree.nodes.lookup spot).isSome
    · rw [if_pos stands]
      by_cases same : names = spot
      · rw [if_pos same, same, lookup_replace_self stands]
      · rw [if_neg same, lookup_replace_of_ne same]
    · rw [if_neg stands, List.lookup_append]
      rw [Bool.not_eq_true, Option.isSome_eq_false_iff, Option.isNone_iff_eq_none] at stands
      by_cases same : names = spot
      · rw [if_pos same, same, stands, List.lookup_cons_self, Option.none_or]
      · rw [if_neg same, lookup_cons_of_ne same, List.lookup_nil, Option.or_none]
  rw [node?, node?, isNode]
  by_cases same : names = spot
  · rw [if_pos same, if_pos same]
  · rw [if_neg same, if_neg same]
    rfl

/-- The place from which a path is walked along. -/
def origin (place : List String) (path : String) : List String :=
  if isAbsolute path then [] else place

/-- A walk along names from a place, through a number of links. -/
inductive Leads (tree : FileTree) : List String → List String → Nat → List String → Prop where
  | ends {place : List String} : Leads tree place [] 0 place
  | up {place rest found : List String} {links : Nat}
      (isDirectory : tree.node? place = some .directory)
      (further : Leads tree place.dropLast rest links found) : Leads tree place (".." :: rest) links found
  | down {place rest found : List String} {name : String} {links : Nat} {node : Node}
      (isDirectory : tree.node? place = some .directory) (isName : name ≠ "..")
      (short : name.utf8ByteSize ≤ 255) (stands : tree.node? (place ++ [name]) = some node)
      (isNoLink : ∀ target, node ≠ .link target)
      (further : Leads tree (place ++ [name]) rest links found) :
      Leads tree place (name :: rest) links found
  | through {place rest found : List String} {name target : String} {links : Nat}
      (isDirectory : tree.node? place = some .directory) (isName : name ≠ "..")
      (short : name.utf8ByteSize ≤ 255) (stands : tree.node? (place ++ [name]) = some (.link target))
      (further : Leads tree (origin place target) (steps target ++ rest) links found) :
      Leads tree place (name :: rest) (links + 1) found

section Steps

variable {place : List String} {name : String} (links : Nat) (rest : List String)

theorem walk_nil (links : Nat) (place : List String) : walk tree true links place [] = .ok place := by
  cases links <;> rfl

theorem walk_notDirectory (noDirectory : tree.node? place ≠ some .directory) :
    walk tree true links place (name :: rest) = .error .notDirectory := by
  cases links <;> rw [walk, walkNames] <;> split <;> first | rfl | contradiction

theorem walk_up (isDirectory : tree.node? place = some .directory) :
    walk tree true links place (".." :: rest) = walk tree true links place.dropLast rest := by
  cases links <;> simp [walk, walkNames, isDirectory]

theorem walk_nameTooLong (isDirectory : tree.node? place = some .directory) (isName : name ≠ "..")
    (long : 255 < name.utf8ByteSize) :
    walk tree true links place (name :: rest) = .error .nameTooLong := by
  cases links <;> simp [walk, walkNames, isDirectory, isName, long]

variable (isDirectory : tree.node? place = some .directory) (isName : name ≠ "..")
  (short : name.utf8ByteSize ≤ 255)

include isDirectory isName short

theorem walk_notFound (absent : tree.node? (place ++ [name]) = none) :
    walk tree true links place (name :: rest) = .error .notFound := by
  have fits : ¬ 255 < name.utf8ByteSize := by omega
  cases links <;> simp [walk, walkNames, isDirectory, isName, fits, absent]

theorem walk_down {node : Node} (stands : tree.node? (place ++ [name]) = some node)
    (isNoLink : ∀ target, node ≠ .link target) :
    walk tree true links place (name :: rest) = walk tree true links (place ++ [name]) rest := by
  have fits : ¬ 255 < name.utf8ByteSize := by omega
  cases node with
  | link target => exact absurd rfl (isNoLink target)
  | _ => cases links <;> simp [walk, walkNames, isDirectory, isName, fits, stands]

theorem walk_through {target : String} (stands : tree.node? (place ++ [name]) = some (.link target)) :
    walk tree true (links + 1) place (name :: rest) =
      walk tree true links (origin place target) (steps target ++ rest) := by
  have fits : ¬ 255 < name.utf8ByteSize := by omega
  simp [walk, walkNames, isDirectory, isName, fits, stands, origin]

theorem walk_through_none {target : String}
    (stands : tree.node? (place ++ [name]) = some (.link target)) :
    walk tree true 0 place (name :: rest) = .error .linkLoop := by
  have fits : ¬ 255 < name.utf8ByteSize := by omega
  simp [walk, walkNames, isDirectory, isName, fits, stands]

end Steps

variable {place front back found : List String} {used links : Nat}

/-- A walk goes on from where its first part leads to. -/
theorem Leads.walk_append (leads : Leads tree place front used found) (links : Nat) (back : List String) :
    walk tree true (used + links) place (front ++ back) = walk tree true links found back := by
  induction leads with
  | ends => rw [Nat.zero_add, List.nil_append]
  | up isDirectory further step => rw [List.cons_append, walk_up _ _ isDirectory, step]
  | down isDirectory isName short stands isNoLink further step =>
      rw [List.cons_append, walk_down _ _ isDirectory isName short stands isNoLink, step]
  | through isDirectory isName short stands further step =>
      rename_i used
      rw [List.cons_append, Nat.add_right_comm, walk_through _ _ isDirectory isName short stands,
        ← List.append_assoc, step]

/-- A walk with too few links for its first part is given up. -/
theorem Leads.walk_linkLoop (leads : Leads tree place front used found) (few : links < used)
    (back : List String) : walk tree true links place (front ++ back) = .error .linkLoop := by
  induction leads generalizing links with
  | ends => omega
  | up isDirectory further step => rw [List.cons_append, walk_up _ _ isDirectory, step few]
  | down isDirectory isName short stands isNoLink further step =>
      rw [List.cons_append, walk_down _ _ isDirectory isName short stands isNoLink, step few]
  | through isDirectory isName short stands further step =>
      rw [List.cons_append]
      cases links with
      | zero => rw [walk_through_none _ isDirectory isName short stands]
      | succ links =>
          rw [walk_through _ _ isDirectory isName short stands, ← List.append_assoc,
            step (Nat.lt_of_succ_lt_succ few)]

theorem Leads.walk (leads : Leads tree place front used found) (enough : used ≤ links) :
    FileTree.walk tree true links place front = .ok found := by
  have goes := leads.walk_append (links - used) []
  rwa [List.append_nil, walk_nil, Nat.add_sub_cancel' enough] at goes

/-- A walk along a name ends there, or goes on from a directory above, from a node below, or from
where a link starts. -/
theorem walk_cons_cases (tree : FileTree) (links : Nat) (place rest : List String) (name : String) :
    (∃ refusal, FileTree.walk tree true links place (name :: rest) = .error refusal ∧
      (refusal = .notFound → tree.node? place = some .directory ∧ name ≠ ".." ∧
        name.utf8ByteSize ≤ 255 ∧ tree.node? (place ++ [name]) = none)) ∨
    tree.node? place = some .directory ∧ (name = ".." ∨
      name ≠ ".." ∧ name.utf8ByteSize ≤ 255 ∧ ∃ node, tree.node? (place ++ [name]) = some node ∧
        ((∀ target, node ≠ .link target) ∨ ∃ target fewer, node = .link target ∧ links = fewer + 1)) := by
  by_cases isDirectory : tree.node? place = some .directory
  · by_cases isName : name = ".."
    · exact .inr ⟨isDirectory, .inl isName⟩
    · by_cases short : name.utf8ByteSize ≤ 255
      · cases stands : tree.node? (place ++ [name]) with
        | none =>
            exact .inl ⟨_, walk_notFound _ _ isDirectory isName short stands,
              fun _ => ⟨isDirectory, isName, short, rfl⟩⟩
        | some node =>
            by_cases isLink : ∃ target, node = .link target
            · rcases isLink with ⟨target, rfl⟩
              cases links with
              | zero => exact .inl ⟨_, walk_through_none _ isDirectory isName short stands, nofun⟩
              | succ fewer =>
                  exact .inr ⟨isDirectory, .inr ⟨isName, short, _, rfl, .inr ⟨target, fewer, rfl, rfl⟩⟩⟩
            · exact .inr ⟨isDirectory, .inr ⟨isName, short, node, rfl,
                .inl (not_exists.mp isLink)⟩⟩
      · exact .inl ⟨_, walk_nameTooLong _ _ isDirectory isName (by omega), nofun⟩
  · exact .inl ⟨_, walk_notDirectory _ _ isDirectory, nofun⟩

/-- Wherever a walk leads, it goes through no more links than it may. -/
theorem exists_leads (walks : FileTree.walk tree true links place front = .ok found) :
    ∃ used ≤ links, Leads tree place front used found := by
  induction links using Nat.strong_induction_on generalizing place front with
  | _ links fewer =>
      induction front generalizing place with
      | nil =>
          rw [walk_nil] at walks
          cases walks
          exact ⟨0, Nat.zero_le _, .ends⟩
      | cons name rest step =>
          rcases walk_cons_cases tree links place rest name with
            ⟨_, fails, _⟩ | ⟨isDirectory, rfl | ⟨isName, short, node, stands,
              isNoLink | ⟨target, remaining, rfl, rfl⟩⟩⟩
          · rw [fails] at walks
            cases walks
          · rw [walk_up _ _ isDirectory] at walks
            rcases step walks with ⟨used, enough, leads⟩
            exact ⟨used, enough, .up isDirectory leads⟩
          · rw [walk_down _ _ isDirectory isName short stands isNoLink] at walks
            rcases step walks with ⟨used, enough, leads⟩
            exact ⟨used, enough, .down isDirectory isName short stands isNoLink leads⟩
          · rw [walk_through _ _ isDirectory isName short stands] at walks
            rcases fewer remaining (Nat.lt_succ_self _) walks with ⟨used, enough, leads⟩
            exact ⟨used + 1, Nat.succ_le_succ enough, .through isDirectory isName short stands leads⟩

/-- The first part of a walk is a walk. -/
theorem Leads.exists_front (leads : Leads tree place (front ++ back) used found) :
    ∃ middle few, Leads tree place front few middle := by
  generalize isWhole : front ++ back = whole at leads
  induction leads generalizing front with
  | ends =>
      rw [(List.append_eq_nil_iff.mp isWhole).1]
      exact ⟨_, _, .ends⟩
  | up isDirectory further step =>
      cases front with
      | nil => exact ⟨_, _, .ends⟩
      | cons name front =>
          rcases List.cons.inj isWhole with ⟨rfl, isRest⟩
          rcases step isRest with ⟨middle, few, leads⟩
          exact ⟨middle, few, .up isDirectory leads⟩
  | down isDirectory isName short stands isNoLink further step =>
      cases front with
      | nil => exact ⟨_, _, .ends⟩
      | cons name front =>
          rcases List.cons.inj isWhole with ⟨rfl, isRest⟩
          rcases step isRest with ⟨middle, few, leads⟩
          exact ⟨middle, few, .down isDirectory isName short stands isNoLink leads⟩
  | through isDirectory isName short stands further step =>
      rename_i place rest found name target links
      cases front with
      | nil => exact ⟨_, _, .ends⟩
      | cons name front =>
          rcases List.cons.inj isWhole with ⟨rfl, isRest⟩
          have isFurther : steps target ++ front ++ back = steps target ++ rest := by
            rw [← isRest]
            exact List.append_assoc _ _ _
          rcases step isFurther with ⟨middle, few, leads⟩
          exact ⟨middle, few + 1, .through isDirectory isName short stands leads⟩

/-! ## Walks in a tree with a new file -/

/-- The link in a place, if one is there, leads nowhere. -/
def Dead (tree : FileTree) (spot : List String) : Prop :=
  ∀ target, tree.node? spot = some (.link target) → ∀ used found,
    ¬ Leads tree (origin spot.dropLast target) (steps target) used found

variable {spot : List String} {content : ByteArray}

/-- A walk stays the same when a file is put in the place of no directory and of no link that leads
anywhere. -/
theorem Leads.put (leads : Leads tree place front used found)
    (noDirectory : tree.node? spot ≠ some .directory) (dead : tree.Dead spot) :
    Leads (tree.put spot (.file content)) place front used found := by
  have stays {place : List String} (isDirectory : tree.node? place = some .directory) :
      (tree.put spot (.file content)).node? place = some .directory := by
    rw [node?_put, if_neg]
    · exact isDirectory
    · rintro rfl
      exact noDirectory isDirectory
  induction leads with
  | ends => exact .ends
  | up isDirectory further step => exact .up (stays isDirectory) step
  | down isDirectory isName short stands isNoLink further step =>
      rename_i place rest found name links node
      by_cases isSpot : place ++ [name] = spot
      · have isFile : (tree.put spot (.file content)).node? (place ++ [name]) = some (.file content) := by
          rw [node?_put, if_pos isSpot]
        exact .down (stays isDirectory) isName short isFile nofun step
      · refine .down (stays isDirectory) isName short ?_ isNoLink step
        rw [node?_put, if_neg isSpot]
        exact stands
  | through isDirectory isName short stands further step =>
      rename_i place rest found name target links
      refine .through (stays isDirectory) isName short ?_ step
      rw [node?_put, if_neg]
      · exact stands
      · rintro rfl
        rcases further.exists_front with ⟨middle, few, leads⟩
        exact dead target stands few middle (by rwa [List.dropLast_concat])

/-- The directories that lead to the home directory stand, and so does this one. -/
def Housed (tree : FileTree) : Prop :=
  ∀ front, front <+: tree.home → tree.node? front = some .directory

/-- A place stands, is no link, and below directories. -/
structure Grounded (tree : FileTree) (place : List String) : Prop where
  above : ∀ front, front <+: place → front ≠ place → tree.node? front = some .directory
  stands : ∃ node, tree.node? place = some node ∧ ∀ target, node ≠ .link target

theorem Housed.grounded (housed : tree.Housed) (path : String) :
    tree.Grounded (origin tree.home path) := by
  rw [origin]
  split
  · refine ⟨?_, .directory, housed _ (List.nil_prefix), nofun⟩
    intro front isFront differs
    exact absurd (List.prefix_nil.mp isFront) differs
  · exact ⟨fun front isFront _ => housed front isFront, .directory, housed _ (List.prefix_refl _), nofun⟩

theorem Grounded.up (grounded : tree.Grounded place)
    (isDirectory : tree.node? place = some .directory) : tree.Grounded place.dropLast := by
  refine ⟨?_, .directory, ?_, nofun⟩
  · intro front isFront differs
    apply grounded.above front (isFront.trans (List.dropLast_prefix place))
    rintro rfl
    exact differs (isFront.eq_of_length_le (List.dropLast_prefix _).length_le)
  · by_cases isRoot : place.dropLast = place
    · rw [isRoot]
      exact isDirectory
    · exact grounded.above _ (List.dropLast_prefix place) isRoot

theorem Grounded.down (grounded : tree.Grounded place)
    (isDirectory : tree.node? place = some .directory) {name : String} {node : Node}
    (stands : tree.node? (place ++ [name]) = some node) (isNoLink : ∀ target, node ≠ .link target) :
    tree.Grounded (place ++ [name]) := by
  refine ⟨?_, node, stands, isNoLink⟩
  intro front isFront differs
  rcases List.prefix_concat_iff.mp isFront with same | isFront
  · exact absurd same differs
  · by_cases same : front = place
    · rw [same]
      exact isDirectory
    · exact grounded.above front isFront same

/-- What a walk leads to stands and is no link. -/
theorem Leads.grounded (leads : Leads tree place front used found) (housed : tree.Housed)
    (grounded : tree.Grounded place) : tree.Grounded found := by
  induction leads with
  | ends => exact grounded
  | up isDirectory further step => exact step (grounded.up isDirectory)
  | down isDirectory _ _ stands isNoLink further step =>
      exact step (grounded.down isDirectory stands isNoLink)
  | through isDirectory _ _ _ further step =>
      rename_i place rest found name target links
      apply step
      rw [origin]
      split
      · exact housed.grounded "/"
      · exact grounded

/-! ## Writing and reading -/

/-- A name under which nothing stands in a directory, or a link that leads nowhere. -/
structure Vacant (tree : FileTree) (place : List String) (name : String) : Prop where
  isDirectory : tree.node? place = some .directory
  isName : name ≠ ".."
  short : name.utf8ByteSize ≤ 255
  noDirectory : tree.node? (place ++ [name]) ≠ some .directory
  dead : tree.Dead (place ++ [name])

theorem dead_of_walk {target : String} (isSpot : tree.node? spot = some (.link target))
    (fails : FileTree.walk tree true links (origin spot.dropLast target) (steps target) =
      .error .notFound) : tree.Dead spot := by
  intro other isOther used found leads
  rw [isSpot] at isOther
  cases isOther
  by_cases enough : used ≤ links
  · rw [leads.walk enough] at fails
    cases fails
  · have loops := leads.walk_linkLoop (Nat.lt_of_not_le enough) []
    rw [List.append_nil, fails] at loops
    cases loops

/-- Where a walk along a name finds nothing, the name is vacant. A link that is there was followed. -/
theorem vacant_of_walk {name : String}
    (fails : FileTree.walk tree true links place [name] = .error .notFound) :
    tree.Vacant place name ∧ ∀ target, tree.node? (place ++ [name]) = some (.link target) →
      ∃ fewer, links = fewer + 1 ∧
        FileTree.walk tree true fewer (origin place target) (steps target) = .error .notFound := by
  rcases walk_cons_cases tree links place [] name with
    ⟨refusal, ends, absent⟩ | ⟨isDirectory, rfl | ⟨isName, short, node, stands,
      isNoLink | ⟨target, fewer, rfl, rfl⟩⟩⟩
  · rw [ends, Except.error.injEq] at fails
    rcases absent fails with ⟨isDirectory, isName, short, absent⟩
    refine ⟨⟨isDirectory, isName, short, ?_, ?_⟩, ?_⟩
    · rw [absent]
      exact nofun
    · intro target isLink
      rw [absent] at isLink
      cases isLink
    · intro target isLink
      rw [absent] at isLink
      cases isLink
  · rw [walk_up _ _ isDirectory, walk_nil] at fails
    cases fails
  · rw [walk_down _ _ isDirectory isName short stands isNoLink, walk_nil] at fails
    cases fails
  · rw [walk_through _ _ isDirectory isName short stands, List.append_nil] at fails
    refine ⟨⟨isDirectory, isName, short, ?_, ?_⟩, ?_⟩
    · rw [stands]
      exact nofun
    · apply dead_of_walk stands
      rw [List.dropLast_concat]
      exact fails
    · intro other isOther
      rw [stands] at isOther
      cases isOther
      exact ⟨fewer, rfl, fails⟩

theorem Vacant.leads_put {name : String} (vacant : tree.Vacant place name) (content : ByteArray) :
    Leads (tree.put (place ++ [name]) (.file content)) place [name] 0 (place ++ [name]) := by
  have isFile : (tree.put (place ++ [name]) (.file content)).node? (place ++ [name]) =
      some (.file content) := by
    rw [node?_put, if_pos rfl]
  refine .down ?_ vacant.isName vacant.short isFile nofun .ends
  rw [node?_put, if_neg]
  · exact vacant.isDirectory
  · intro same
    simpa using congrArg List.length same

theorem Leads.append (leads : Leads tree place front used found) {others : List String} {more : Nat}
    (further : Leads tree found back more others) :
    Leads tree place (front ++ back) (used + more) others := by
  induction leads with
  | ends =>
      rw [Nat.zero_add]
      exact further
  | up isDirectory _ step => exact .up isDirectory (step further)
  | down isDirectory isName short stands isNoLink _ step =>
      exact .down isDirectory isName short stands isNoLink (step further)
  | through isDirectory isName short stands _ step =>
      rw [Nat.add_right_comm]
      refine .through isDirectory isName short stands ?_
      have whole := step further
      rwa [List.append_assoc] at whole

variable {path : String} {names : List String} {after : FileTree}

theorem exists_leads_of_locate (locates : tree.locate true path = .ok names) :
    path.isEmpty = false ∧
      (∃ used ≤ maxLinks, Leads tree (origin tree.home path) (steps path) used names) ∧
      ¬ (path.toList.getLast? = some '/' ∧ (tree.node? names).any Node.isFile = true) := by
  rw [locate] at locates
  split at locates
  · cases locates
  · rename_i nonempty
    rcases Except.exists_of_bind_eq_ok locates with ⟨reached, walks, locates⟩
    split at locates
    · cases locates
    · rename_i isOpen
      cases locates
      exact ⟨Bool.eq_false_iff.mpr nonempty, exists_leads walks, by simpa using isOpen⟩

theorem walk_of_locate (nonempty : path.isEmpty = false)
    (fails : tree.locate true path = .error .notFound) :
    FileTree.walk tree true maxLinks (origin tree.home path) (steps path) = .error .notFound := by
  rw [locate, if_neg (by simp [nonempty])] at fails
  change Except.bind (FileTree.walk tree true maxLinks (origin tree.home path) (steps path)) _ = _
    at fails
  cases walked : FileTree.walk tree true maxLinks (origin tree.home path) (steps path) with
  | error refusal =>
      rw [walked] at fails
      exact fails
  | ok names =>
      rw [walked] at fails
      simp only [Except.bind] at fails
      split at fails <;> cases fails

/-- What a walk along a path leads to is read. -/
theorem read_of_leads (nonempty : path.isEmpty = false) (isOpen : path.toList.getLast? ≠ some '/')
    (leads : Leads tree (origin tree.home path) (steps path) used names) (few : used ≤ maxLinks)
    (stands : tree.node? names = some (.file content)) : tree.read path = .ok content := by
  have walks := leads.walk few
  have locates : tree.locate true path = .ok names := by
    rw [locate, if_neg (by simp [nonempty])]
    change Except.bind (FileTree.walk tree true maxLinks (origin tree.home path) (steps path)) _ = _
    rw [walks]
    simp [Except.bind, isOpen]
    rfl
  have isStat : tree.stat path = .ok (.file content) := by
    simp only [stat, locates, stands, bind, Except.bind]
    rfl
  rw [read, isStat]
  rfl

theorem read_put (housed : tree.Housed) (locates : tree.locate true path = .ok names)
    (noDirectory : tree.node? names ≠ some .directory) (content : ByteArray) :
    (tree.put names (.file content)).read path = .ok content := by
  rcases exists_leads_of_locate locates with ⟨nonempty, ⟨used, few, leads⟩, isOpen⟩
  rcases (leads.grounded housed (housed.grounded path)).stands with ⟨node, stands, isNoLink⟩
  have dead : tree.Dead names := by
    intro target isLink
    rw [stands] at isLink
    cases isLink
    exact absurd rfl (isNoLink target)
  have isFile : node.isFile = true := by
    cases node with
    | directory => exact absurd stands noDirectory
    | link target => exact absurd rfl (isNoLink target)
    | file _ => rfl
    | sparse _ => rfl
  refine read_of_leads nonempty ?_ (leads.put noDirectory dead) few (by rw [node?_put, if_pos rfl])
  intro closes
  exact isOpen ⟨closes, by rw [stands]; exact isFile⟩

section Vacant

variable {name target last : String} {parent ahead : List String} {more : Nat}

theorem Leads.put_vacant (leads : Leads tree place front used names)
    (vacant : tree.Vacant names name) (content : ByteArray) :
    Leads (tree.put (names ++ [name]) (.file content)) place (front ++ [name]) used
      (names ++ [name]) :=
  (leads.put vacant.noDirectory vacant.dead).append (vacant.leads_put content)

/-- A link that leads to a vacant name leads to the file that is put there. -/
theorem Leads.exists_put_through (leads : Leads tree place front used names)
    (vacant : tree.Vacant names name) (isLink : tree.node? (names ++ [name]) = some (.link target))
    (isTarget : steps target = ahead ++ [last])
    (further : Leads tree (origin names target) ahead more parent)
    (free : tree.Vacant parent last) (content : ByteArray) :
    ∃ few ≤ used + (more + 1), Leads (tree.put (parent ++ [last]) (.file content)) place
      (front ++ [name]) few (parent ++ [last]) := by
  by_cases same : names ++ [name] = parent ++ [last]
  · -- the link is the name that it leads to, and the file takes its place
    rw [← same]
    exact ⟨used, Nat.le_add_right _ _, leads.put_vacant vacant content⟩
  · refine ⟨used + (more + 1), le_rfl, (leads.put free.noDirectory free.dead).append ?_⟩
    have stays : (tree.put (parent ++ [last]) (.file content)).node? (names ++ [name]) =
        some (.link target) := by
      rw [node?_put, if_neg same]
      exact isLink
    refine .through ?_ vacant.isName vacant.short stays ?_
    · rw [node?_put, if_neg]
      · exact vacant.isDirectory
      · intro isSpot
        exact free.noDirectory (isSpot ▸ vacant.isDirectory)
    · rw [List.append_nil, isTarget]
      exact further.put_vacant free content

end Vacant

/-- The directory of a path under which nothing was found is found, and the last name of the path is vacant
in it. A link that is there was followed. -/
theorem exists_vacant_of_lead {name : String} (isLast : (steps path).getLast? = some name)
    (missed : FileTree.walk tree true maxLinks (origin tree.home path) (steps path) = .error .notFound)
    (locates : tree.locate true (Path.lead path) = .ok names) :
    ∃ front used, steps path = front ++ [name] ∧ used ≤ maxLinks ∧
      Leads tree (origin tree.home path) front used names ∧ tree.Vacant names name ∧
      ∀ target, tree.node? (names ++ [name]) = some (.link target) → ∃ fewer,
        maxLinks = used + (fewer + 1) ∧
        FileTree.walk tree true fewer (origin names target) (steps target) = .error .notFound := by
  rcases exists_leads_of_locate locates with ⟨_, ⟨used, few, leads⟩, _⟩
  rcases Path.exists_steps_lead path with ⟨isAbsolute, same | ⟨other, isSteps⟩⟩
  · rw [origin, isAbsolute, ← origin, ← same] at leads
    rw [leads.walk few] at missed
    cases missed
  · rw [isSteps, List.getLast?_concat, Option.some.injEq] at isLast
    subst isLast
    rw [origin, isAbsolute, ← origin] at leads
    have ends := leads.walk_append (maxLinks - used) [other]
    rw [Nat.add_sub_cancel' few, ← isSteps, missed] at ends
    rcases vacant_of_walk ends.symm with ⟨vacant, follows⟩
    refine ⟨_, used, isSteps, few, leads, vacant, ?_⟩
    intro target isLink
    rcases follows target isLink with ⟨fewer, remaining, fails⟩
    exact ⟨fewer, by omega, fails⟩

/-- The target of a link that was followed to nothing has a vacant last name. The walk that failed has gone
along the target up to this name. -/
theorem exists_vacant_of_target {target last : String} {fewer many : Nat} {parent : List String}
    (isLast : (steps target).getLast? = some last)
    (fails : FileTree.walk tree true fewer (origin names target) (steps target) = .error .notFound)
    (walks : FileTree.walk tree true many (origin names target) (steps target).dropLast = .ok parent) :
    ∃ more ≤ fewer, Leads tree (origin names target) (steps target).dropLast more parent ∧
      tree.Vacant parent last := by
  rcases exists_leads walks with ⟨more, _, further⟩
  have isTarget : steps target = (steps target).dropLast ++ [last] :=
    (List.dropLast_append_getLast? last isLast).symm
  have enough : more ≤ fewer := by
    by_contra few
    have loops := further.walk_linkLoop (Nat.lt_of_not_le few) [last]
    rw [← isTarget, fails] at loops
    cases loops
  have ends := further.walk_append (fewer - more) [last]
  rw [Nat.add_sub_cancel' enough, ← isTarget] at ends
  exact ⟨more, enough, further, (vacant_of_walk (ends.symm.trans fails)).1⟩

/-- A path under which nothing was found leads to the file that is written there. -/
theorem read_write_new (fails : tree.locate true path = .error .notFound)
    (writes : tree.write path content = .ok after) : after.read path = .ok content := by
  have nonempty : path.isEmpty = false := by
    by_contra isEmpty
    rw [Bool.not_eq_false, String.isEmpty_iff] at isEmpty
    subst isEmpty
    rw [write, fails] at writes
    cases writes
  have missed := walk_of_locate nonempty fails
  rw [write, fails] at writes
  dsimp only at writes
  split at writes
  · cases writes
  · rename_i name isLast
    split at writes
    · cases writes
    · rename_i named
      have isOpen : path.toList.getLast? ≠ some '/' := by
        simp only [Bool.or_eq_true, beq_iff_eq, not_or] at named
        exact named.2
      rcases Except.exists_of_bind_eq_ok writes with ⟨names, locates, writes⟩
      rcases exists_vacant_of_lead isLast missed locates with
        ⟨front, used, isSteps, few, leads, vacant, follows⟩
      split at writes
      · rename_i target isLink
        rcases follows target isLink with ⟨fewer, remaining, fails⟩
        split at writes
        · cases writes
        · rename_i last isLast
          rcases Except.exists_of_bind_eq_ok writes with ⟨parent, walks, writes⟩
          cases writes
          rcases exists_vacant_of_target isLast fails walks with ⟨more, enough, further, free⟩
          have isTarget : steps target = (steps target).dropLast ++ [last] :=
            (List.dropLast_append_getLast? last isLast).symm
          rcases leads.exists_put_through vacant isLink isTarget further free content with
            ⟨count, isCount, reads⟩
          rw [← isSteps] at reads
          exact read_of_leads nonempty isOpen reads (by omega) (by rw [node?_put, if_pos rfl])
      · cases writes
        have reads := leads.put_vacant vacant content
        rw [← isSteps] at reads
        exact read_of_leads nonempty isOpen reads few (by rw [node?_put, if_pos rfl])

/-- What is written under a path is read there. -/
theorem read_write (housed : tree.Housed) (writes : tree.write path content = .ok after) :
    after.read path = .ok content := by
  cases locates : tree.locate true path with
  | ok names =>
      rw [write, locates] at writes
      dsimp only at writes
      split at writes
      · cases writes
      · rename_i noDirectory
        cases writes
        exact read_put housed locates noDirectory content
  | error refusal =>
      by_cases absent : refusal = .notFound
      · subst absent
        exact read_write_new locates writes
      · rw [write, locates] at writes
        cases refusal with
        | notFound => exact absurd rfl absent
        | _ => cases writes

/-! ## Storing texts -/

theorem Housed.put (housed : tree.Housed) (spot : List String) :
    (tree.put spot .directory).Housed := by
  intro front isFront
  rw [node?_put]
  split
  · rfl
  · exact housed front isFront

theorem Housed.makeDirectory (housed : tree.Housed) (makes : tree.makeDirectory path = .ok after) :
    after.Housed := by
  rw [FileTree.makeDirectory] at makes
  split at makes
  · cases makes
  · rcases Except.exists_of_bind_eq_ok makes with ⟨names, _, makes⟩
    split at makes
    · split at makes
      · cases makes
        exact housed.put _
      · cases makes
    · cases makes
  · cases makes

theorem eq_ok_of_mapError_eq_ok {ε δ α : Type} {result : Except ε α} {change : ε → δ} {value : α}
    (maps : result.mapError change = .ok value) : result = .ok value := by
  cases result with
  | error _ => cases maps
  | ok _ =>
      cases maps
      rfl

theorem exists_of_mapError_eq_error {ε δ α : Type} {result : Except ε α} {change : ε → δ} {fault : δ}
    (maps : result.mapError change = .error fault) : ∃ cause, change cause = fault := by
  cases result with
  | error cause => exact ⟨cause, Except.error.inj maps⟩
  | ok _ => cases maps

/-- Whatever directories are made one after the other, the home directory stands. -/
theorem Housed.foldl {ε : Type} {change : String → Refusal → ε} {start : Except ε FileTree}
    (starts : ∀ made, start = .ok made → made.Housed) (paths : List String)
    (makes : paths.foldl (fun made leading => do
      let tree ← made
      (tree.makeDirectory leading).mapError (change leading)) start = .ok after) : after.Housed := by
  induction paths generalizing start with
  | nil => exact starts after makes
  | cons leading paths step =>
      refine step ?_ makes
      intro made isMade
      rcases Except.exists_of_bind_eq_ok isMade with ⟨earlier, isEarlier, isMade⟩
      exact (starts earlier isEarlier).makeDirectory (eq_ok_of_mapError_eq_ok isMade)

theorem Housed.makeDirectories (housed : tree.Housed)
    (makes : tree.makeDirectories path = .ok after) : after.Housed := by
  rw [FileTree.makeDirectories] at makes
  split at makes
  · cases makes
    exact housed
  · refine Housed.foldl ?_ _ makes
    intro made isMade
    split at isMade <;> cases isMade
    exact housed

/-- A text without carriage returns reads back from where it was stored. -/
theorem readText_of_store (housed : tree.Housed) {text : Text} (absent : '\r' ∉ text)
    (stores : tree.store path text = .ok after) : after.readText path = .ok text := by
  rcases Except.exists_of_bind_eq_ok stores with ⟨made, makes, stores⟩
  have madeHoused : made.Housed := by
    rw [makeParents] at makes
    dsimp only at makes
    split at makes
    · cases makes
      exact housed
    · exact housed.makeDirectories (eq_ok_of_mapError_eq_ok makes)
  have reads := read_write madeHoused (eq_ok_of_mapError_eq_ok stores)
  rw [readText, reads]
  simp only [Text.decodeUtf8_toUTF8, Text.normalizeNewlines_of_not_mem absent]

end FileTree

end DocBinder
