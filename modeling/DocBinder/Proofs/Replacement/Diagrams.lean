import DocBinder.Project.Synchronize
import DocBinder.Proofs.Replacement.Fences

/-!
# What is taken for a diagram

The same list of languages is given to the builder, which puts tokens for diagrams, and to the reader,
which reads blocks. Both disregard case, and both know the usual languages when no list is given. Of an
empty list the builder makes the usual languages, and the reader none: only there do they differ.
-/

namespace DocBinder

/-- Whether a block is a diagram without a token. -/
def Block.isDiagram : Block → Bool
  | .diagram .. => true
  | _ => false

namespace Placeholder

open Markdown

/-- The languages that a reader takes for diagrams: the given ones, or the usual ones without a list. -/
def readerLanguages : Option (List Text) → List Text
  | none => defaultDiagramLanguages
  | some given => given.map Text.lower

/-- The languages that a builder takes for diagrams; without a list, it is as if an empty one was
given. -/
def builderLanguages (given : Option (List Text)) : List Text :=
  diagramLanguages (given.getD [])

theorem builderLanguages_eq {given : Option (List Text)} (notEmpty : given ≠ some []) :
    builderLanguages given = readerLanguages given := by
  cases given with
  | none => rfl
  | some given =>
      cases given with
      | nil => exact absurd rfl notEmpty
      | cons language others => rfl

/-- A run gives its reader and its builder the languages of its configuration. -/
theorem languages_coordinator {σ : Type} (runner : Project.Runner σ) (config : Project.Config)
    (files : FileTree) :
    let given := some (config.diagramLanguages.map String.toList)
    (runner.coordinator config files).diagramLanguages = readerLanguages given ∧
      (runner.coordinator config files).setup.diagramLanguages = builderLanguages given :=
  ⟨rfl, rfl⟩

/-! ## What is counted -/

/-- The diagrams that are counted with a token and without one. -/
def Work.diagrams (work : Work) : Nat × Nat :=
  (work.stats.diagrams, work.stats.diagramsUnrendered)

/-- A step that counts no diagram. -/
def Build.Still {α : Type} (step : Build α) : Prop :=
  ∀ work, Meets step work (fun _ reached => reached.diagrams = work.diagrams) fun _ _ => True

namespace Build.Still

variable {α β : Type}

theorem pure (value : α) : Still (pure value : Build α) :=
  fun _ => .pure value rfl

theorem bind {first : Build β} {next : β → Build α} (begins : Still first)
    (follows : ∀ value, Still (next value)) : Still (first >>= next) := by
  intro work
  refine .bind ((begins work).mono ?_ fun _ _ _ => trivial)
  intro value middle holds
  refine (follows value middle).mono ?_ fun _ _ _ => trivial
  exact fun _ _ later => later.trans holds

theorem modify (change : Work → Work) (same : ∀ work, (change work).diagrams = work.diagrams) :
    Still (modify change) :=
  fun work => .modify change (same work)

theorem ofResult (result : Except Failure α) : Still (ExceptT.mk (Pure.pure result) : Build α) :=
  fun _ => .lift (fun _ _ => rfl) fun _ _ => trivial

theorem report (level : Log.Level) (message : String) : Still (report level message) :=
  modify _ fun _ => rfl

theorem record (event : Event) : Still (record event) :=
  modify _ fun _ => rfl

theorem remember (key address : String) : Still (remember key address) :=
  modify _ fun _ => rfl

theorem nextToken (kind : TokenKind) : Still (nextToken kind) := by
  intro work
  exact .bind (.get (.bind (.set _ (.pure _ rfl))))

theorem cached (key : String) : Still (cached key) := by
  intro work
  exact .bind (.get (.bind (.set _ (.pure _ rfl))))

theorem upload (uploader : Uploader) (path : String) : Still (upload uploader path) :=
  bind (record _) fun _ => ofResult _

theorem render (renderer : Renderer) (code language : Text) :
    Still (render renderer code language) := by
  refine bind (record _) fun _ work => .bind (.get (.bind ?_))
  refine (ofResult _ work).mono ?_ fun _ _ _ => trivial
  intro image reached same
  split
  · exact .bind (.modify _ (.pure _ same))
  · exact .pure _ same

theorem substitute {find : Option Char → Text → Option β} {length : β → Nat} {act : β → Build Text}
    (acts : ∀ found, Still (act found)) (before : Option Char) (skip : Nat) (text : Text) :
    Still (substitute find length act before skip text) := by
  induction text generalizing before skip with
  | nil => exact pure []
  | cons character rest step =>
      cases skip with
      | succ skip => exact step (some character) skip
      | zero =>
          rw [Placeholder.substitute]
          split
          · exact bind (acts _) fun _ => bind (step _ _) fun _ => pure _
          · exact bind (step _ _) fun _ => pure _

variable (setup : Setup) (directory : Option String)

theorem uploadLocal (source : Text) : Still (uploadLocal setup directory source) := by
  unfold Placeholder.uploadLocal
  split
  · rename_i uploader start _
    generalize resolvePath setup.files start source = result
    refine bind (ofResult result) fun path => ?_
    split
    · exact bind (report _ _) fun _ => pure none
    · extract_lets key
      clear_value key
      refine bind (cached key) fun found => ?_
      cases found with
      | some address => exact bind (modify _ fun _ => rfl) fun _ => pure _
      | none =>
          exact bind (upload uploader path) fun _ => bind (remember _ _) fun _ =>
            bind (modify _ fun _ => rfl) fun _ => pure _
  · exact bind (report _ _) fun _ => pure none

theorem replaceImage (image : Reference) : Still (replaceImage setup directory image) := by
  unfold Placeholder.replaceImage
  extract_lets place
  have placed (address : Option Text) : Still (place address) := by
    cases address with
    | none => exact pure _
    | some address =>
        exact bind (nextToken _) fun _ => bind (modify _ fun _ => rfl) fun _ =>
          bind (modify _ fun _ => rfl) fun _ => pure _
  split
  · exact bind (pure _) placed
  · exact bind (uploadLocal setup directory _) placed

theorem replaceLink (link : Reference) : Still (replaceLink setup directory link) := by
  unfold Placeholder.replaceLink
  extract_lets external place
  have placed (address : Option Text) : Still (place address) := by
    cases address with
    | none => exact pure _
    | some address =>
        exact bind (nextToken _) fun _ => bind (modify _ fun _ => rfl) fun _ =>
          bind (modify _ fun _ => rfl) fun _ => pure _
  split
  · exact bind (pure _) placed
  · split
    · exact bind (report _ _) fun _ => bind (pure none) placed
    · exact bind (uploadLocal setup directory _) placed

theorem processPieces (pieces : List (Bool × Text)) :
    Still (processPieces setup directory pieces) := by
  induction pieces with
  | nil => exact pure []
  | cons piece rest step =>
      have plain (text : Text) : Still (processPlain setup directory text) :=
        bind (substitute (replaceImage setup directory) none 0 text) fun replaced =>
          substitute (replaceLink setup directory) none 0 replaced
      rw [Placeholder.processPieces]
      split
      · exact bind (pure _) fun _ => bind step fun _ => pure _
      · exact bind (plain _) fun _ => bind step fun _ => pure _

end Build.Still

/-! ## What becomes of a fence -/

/-- What a diagram comes to, beside what is counted before and after: a token stands for it, or it
stays as it is written. -/
inductive DiagramFits (source : Text) : Nat × Nat → Text → Nat × Nat → Prop
  | token (number drawn left : Nat) :
      DiagramFits source (drawn, left) (token .diagram number) (drawn + 1, left)
  | stays (drawn left : Nat) : DiagramFits source (drawn, left) source (drawn, left + 1)

/-- A step that makes one diagram of a source. -/
def Build.Draws (source : Text) (step : Build Text) : Prop :=
  ∀ work, Meets step work
    (fun shown reached => DiagramFits source work.diagrams shown reached.diagrams) fun _ _ => True

theorem Build.Still.draws {α : Type} {source : Text} {first : Build α} {next : α → Build Text}
    (begins : Still first) (follows : ∀ value, Draws source (next value)) :
    Draws source (first >>= next) := by
  intro work
  refine .bind ((begins work).mono ?_ fun _ _ _ => trivial)
  intro value middle same
  rw [← same]
  exact follows value middle

theorem Build.Draws.processDiagram (setup : Setup) (language body source : Text) :
    Draws source (processDiagram setup language body source) := by
  unfold Placeholder.processDiagram
  extract_lets unrendered lowered key place
  clear_value lowered key
  have stays : Draws source unrendered :=
    fun work => .bind (.modify _ (.pure _ (.stays _ _)))
  split
  · rename_i renderer uploader _ _
    have placed (address : Option String) : Draws source (place address) := by
      cases address with
      | none => exact Still.draws (.report _ _) fun _ => stays
      | some address =>
          exact fun work => .bind (.bind (.get (.bind (.set _ (.pure _ (.bind (.modify _ (.bind
            (.modify _ (.pure _ (.token _ _ _)))))))))))
    refine Still.draws (.cached key) fun found => ?_
    cases found with
    | some address => exact Still.draws (.pure _) placed
    | none =>
        refine Still.draws (.render renderer body lowered) fun rendered => ?_
        split
        · exact Still.draws (.pure none) placed
        · exact Still.draws (.upload uploader _) fun result =>
            Still.draws (.remember _ _) fun _ => Still.draws (.modify _ fun _ => rfl) fun _ =>
              Still.draws (.pure _) placed
  · exact stays

section Fence

variable (setup : Setup) (directory : Option String)

/-- A builder takes a part of a document for a diagram: a token stands for it and is counted, or it
stays as it is written and is counted as a diagram that was not rendered. -/
def TakesForDiagram (segment : Segment) : Prop :=
  Build.Draws segment.source (processSegment setup directory segment)

/-- A builder leaves a part of a document as it is, and counts nothing. -/
def LeavesAsCode (segment : Segment) : Prop :=
  ∀ work, Meets (processSegment setup directory segment) work
    (fun shown reached => shown = segment.source ∧ reached = work) never

variable {setup directory}

/-- What is left as code is not taken for a diagram. -/
theorem LeavesAsCode.not_takesForDiagram {segment : Segment}
    (leaves : LeavesAsCode setup directory segment) : ¬ TakesForDiagram setup directory segment := by
  intro takes
  have both := (leaves default).and (takes default)
  rcases (both.mono (fun _ _ holds => holds) fun _ _ fails => fails.1).exists_run with
    ⟨shown, reached, _, ⟨_, rfl⟩, counted⟩
  cases counted

variable (setup directory)

theorem leavesAsCode {language : Option Text} (body source : Text)
    (isCode : isDiagram setup.diagramLanguages language = false) :
    LeavesAsCode setup directory (.fence language body source) := by
  intro work
  rw [processSegment, isCode]
  exact .pure source ⟨rfl, rfl⟩

theorem takesForDiagram {language : Option Text} (body source : Text)
    (isDiagram : isDiagram setup.diagramLanguages language = true) :
    TakesForDiagram setup directory (.fence language body source) := by
  rw [TakesForDiagram, processSegment, if_pos isDiagram]
  exact .processDiagram setup _ body source

end Fence

/-! ## All fences -/

theorem isDiagram_block (languages : List Text) (fence : Fence) :
    (fence.block languages).isDiagram = isDiagram languages fence.language := by
  rw [Fence.block]
  split <;> simp_all [Block.isDiagram]

/-- The diagrams that are counted, with a token or without one. -/
def Stats.taken (stats : Stats) : Nat :=
  stats.diagrams + stats.diagramsUnrendered

/-- Whether a segment is a fence of one of the languages. -/
def Segment.isDiagram (languages : List Text) (segment : Segment) : Bool :=
  segment.fence?.any fun fence => Markdown.isDiagram languages fence.language

section Run

variable (setup : Setup) (directory : Option String)

theorem taken_processSegment (segment : Segment) (work : Work) :
    Meets (processSegment setup directory segment) work
      (fun _ reached => reached.stats.taken =
        work.stats.taken + if segment.isDiagram setup.diagramLanguages then 1 else 0)
      fun _ _ => True := by
  cases segment with
  | text source =>
      refine (Build.Still.processPieces setup directory _ work).mono ?_ fun _ _ _ => trivial
      intro _ reached same
      simp only [Work.diagrams, Prod.mk.injEq] at same
      simp [Stats.taken, same, Segment.isDiagram, Segment.fence?]
  | fence language body source =>
      cases decides : isDiagram setup.diagramLanguages language with
      | false =>
          refine (leavesAsCode setup directory body source decides work).mono ?_
            fun _ _ _ => trivial
          rintro _ _ ⟨_, rfl⟩
          simp [Segment.isDiagram, Segment.fence?, decides]
      | true =>
          refine (takesForDiagram setup directory body source decides work).mono ?_
            fun _ _ _ => trivial
          intro shown reached fits
          rw [Work.diagrams, Work.diagrams] at fits
          simp only [Segment.isDiagram, Segment.fence?, decides, Option.any_some, if_true]
          generalize isCounts : (reached.stats.diagrams, reached.stats.diagramsUnrendered) = counts
            at fits
          cases fits <;>
          · simp only [Prod.mk.injEq] at isCounts
            simp only [Stats.taken]
            omega

/-- Every diagram is counted once. -/
theorem taken_processSegments (segments : List Segment) (work : Work) :
    Meets (processSegments setup directory segments) work
      (fun _ reached => reached.stats.taken =
        work.stats.taken + segments.countP (Segment.isDiagram setup.diagramLanguages))
      fun _ _ => True := by
  induction segments generalizing work with
  | nil => exact .pure [] rfl
  | cons segment rest step =>
      rw [processSegments]
      refine .bind ((taken_processSegment setup directory segment work).mono ?_
        fun _ _ _ => trivial)
      intro shown middle own
      refine .bind ((step middle).mono ?_ fun _ _ _ => trivial)
      intro following reached others
      refine .pure _ ?_
      rw [others, own, List.countP_cons, Nat.add_assoc, Nat.add_comm (rest.countP _)]

variable {setup directory}

theorem taken_built {markdown : Text} {state : BuilderState} {built : Built}
    (builds : (build setup markdown directory state).1 = .ok built) :
    built.stats.taken = (segments markdown).countP (Segment.isDiagram setup.diagramLanguages) := by
  have meets := (taken_processSegments setup directory (segments markdown)
    ⟨state, [], [], .zero⟩).run
  rw [Meets] at meets
  rw [build] at builds
  split at meets
  · rename_i reached runs
    rw [runs] at builds
    cases builds
    rw [meets.2]
    exact Nat.zero_add _
  · rename_i runs
    rw [runs] at builds
    cases builds

end Run

/-- How a builder and a reader that were given a list of languages, or none, treat the same fence. -/
structure Treated (given : Option (List Text)) (setup : Setup) (directory : Option String)
    (segment : Segment) (block : Block) : Prop where
  same : ∃ fence, segment.fence? = some fence ∧ block.fence? = some fence ∧
    (TakesForDiagram setup directory segment ↔
      isDiagram (builderLanguages given) fence.language = true)
  decided : LeavesAsCode setup directory segment ↔ ¬ TakesForDiagram setup directory segment
  agreed : block.isDiagram = true ↔ given ≠ some [] ∧ TakesForDiagram setup directory segment

theorem treated {given : Option (List Text)} {setup : Setup}
    (languages : setup.diagramLanguages = builderLanguages given) (directory : Option String)
    {segment : Segment} {fence : Fence} (isFence : segment.fence? = some fence) :
    Treated given setup directory segment (fence.block (readerLanguages given)) := by
  cases segment with
  | text source => cases isFence
  | fence language body source =>
      cases isFence
      have leaves : isDiagram setup.diagramLanguages language = false →
          LeavesAsCode setup directory (.fence language body source) :=
        leavesAsCode setup directory body source
      have takes : isDiagram setup.diagramLanguages language = true →
          TakesForDiagram setup directory (.fence language body source) :=
        takesForDiagram setup directory body source
      rw [languages] at leaves takes
      have decides : TakesForDiagram setup directory (.fence language body source) ↔
          isDiagram (builderLanguages given) language = true := by
        refine ⟨?_, takes⟩
        intro taken
        by_contra isCode
        exact (leaves (Bool.eq_false_iff.mpr isCode)).not_takesForDiagram taken
      refine ⟨⟨_, rfl, fence?_block _ _, decides⟩, ⟨LeavesAsCode.not_takesForDiagram, ?_⟩, ?_⟩
      · intro notTaken
        exact leaves (Bool.eq_false_iff.mpr fun isDiagram => notTaken (takes isDiagram))
      · rw [isDiagram_block, decides]
        by_cases isEmpty : given = some []
        · subst isEmpty
          cases language <;> simp [readerLanguages, isDiagram]
        · simp [builderLanguages_eq isEmpty, isEmpty]

theorem forall₂_fences {relates : Segment → Block → Prop} {languages : List Text}
    (holds : ∀ segment fence, segment.fence? = some fence →
      relates segment (fence.block languages)) (segments : List Segment) :
    List.Forall₂ relates (segments.filter (·.fence?.isSome))
      ((segments.filterMap Segment.fence?).map (Fence.block languages)) := by
  induction segments with
  | nil => exact .nil
  | cons segment rest step =>
      cases isFence : segment.fence? with
      | none =>
          rw [List.filter_cons_of_neg (by simp [isFence]), List.filterMap_cons_none isFence]
          exact step
      | some fence =>
          rw [List.filter_cons_of_pos (by simp [isFence]), List.filterMap_cons_some isFence]
          exact .cons (holds segment fence isFence) step

theorem countP_segments (languages : List Text) {markdown : Text} (noReturn : '\r' ∉ markdown) :
    (segments markdown).countP (Segment.isDiagram languages) =
      (classify languages markdown).countP Block.isDiagram := by
  have fences := congrArg (List.countP Block.isDiagram) (filter_classify languages noReturn)
  have within (block : Block) : (block.isDiagram && block.fence?.isSome) = block.isDiagram := by
    cases block <;> rfl
  simp only [List.countP_filter, within] at fences
  rw [fences, List.countP_map, List.countP_filterMap]
  congr 1
  funext segment
  cases isFence : segment.fence? <;> simp [Segment.isDiagram, isFence, isDiagram_block]

/-- Builder and reader find the same fences, and treat each of them alike unless the list that they are
given is empty. Then the reader takes none of them for a diagram, and the builder takes those of the
usual languages. -/
theorem treats_classify {given : Option (List Text)} {setup : Setup}
    (languages : setup.diagramLanguages = builderLanguages given) (directory : Option String)
    {markdown : Text} (noReturn : '\r' ∉ markdown) :
    List.Forall₂ (Treated given setup directory)
        ((segments markdown).filter (·.fence?.isSome))
        ((classify (readerLanguages given) markdown).filter (·.fence?.isSome)) ∧
      ∀ state built, (build setup markdown directory state).1 = .ok built →
        built.stats.taken = (classify (builderLanguages given) markdown).countP Block.isDiagram := by
  constructor
  · rw [filter_classify _ noReturn]
    exact forall₂_fences (fun _ _ => treated languages directory) _
  · intro state built builds
    rw [taken_built builds, languages, countP_segments _ noReturn]

theorem treats_classify_fenced :
    let given := some ["MERMAID".toList]
    let setup : Setup := .bare (builderLanguages given)
    setup.diagramLanguages = builderLanguages given ∧ '\r' ∉ fenced ∧
      List.Forall₂ (Treated given setup none) ((segments fenced).filter (·.fence?.isSome))
        ((classify (readerLanguages given) fenced).filter (·.fence?.isSome)) ∧
      ∃ built, (build setup fenced none .initial).1 = .ok built ∧ built.stats.taken = 1 := by
  intro given setup
  have languages : setup.diagramLanguages = builderLanguages given := rfl
  have noReturn : '\r' ∉ fenced := by decide +kernel
  have treats := treats_classify languages none noReturn
  rcases exists_build setup fenced none .initial rfl with ⟨built, builds, _⟩
  refine ⟨languages, noReturn, treats.1, built, builds, ?_⟩
  rw [treats.2 _ built builds]
  decide +kernel

/-- A document that holds nothing but a fence of a usual language. -/
def mermaid : Text :=
  "```mermaid\nx\n```".toList

/-- With an empty list, the builder counts a diagram where the reader reads code. -/
theorem not_all_treated_alike :
    ¬ ∀ (given : Option (List Text)) (markdown : Text), '\r' ∉ markdown →
      List.Forall₂ (fun segment block => block.isDiagram = true ↔
          TakesForDiagram (.bare (builderLanguages given)) none segment)
        ((segments markdown).filter (·.fence?.isSome))
        ((classify (readerLanguages given) markdown).filter (·.fence?.isSome)) := by
  intro alike
  have pairs := alike (some []) mermaid (by decide +kernel)
  have cut : (segments mermaid).filter (·.fence?.isSome) =
      [.fence (some "mermaid".toList) ['x'] mermaid] := by
    decide +kernel
  have read : (classify (readerLanguages (some [])) mermaid).filter (·.fence?.isSome) =
      [.code mermaid (some "mermaid".toList) ['x']] := by
    decide +kernel
  rw [cut, read, List.forall₂_cons] at pairs
  have taken : TakesForDiagram (.bare (builderLanguages (some []))) none
      (.fence (some "mermaid".toList) ['x'] mermaid) :=
    takesForDiagram _ none ['x'] mermaid (by decide +kernel)
  cases pairs.1.mpr taken

end Placeholder

end DocBinder
