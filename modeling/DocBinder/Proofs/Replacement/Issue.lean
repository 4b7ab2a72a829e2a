import DocBinder.Proofs.Replacement.Token
import DocBinder.Proofs.Steps

/-!
# Issuing tokens

Every token carries a number, taken from a counter that only moves on; hence the tokens of a document
are all different, and different from those that were issued before. Without an uploader nothing is
rendered and no local file gets an address, so that putting tokens into a document cannot fail.
-/

namespace DocBinder.Placeholder

/-- A token of a kind whose number was counted between two states of the counters. -/
def Counters.Counted (first last : Counters) (kind : TokenKind) (text : Text) : Prop :=
  ∃ number, first.get kind ≤ number ∧ number < last.get kind ∧ text = token kind number

theorem Counters.get_advance (counters : Counters) (kind other : TokenKind) :
    (counters.advance kind).get other =
      if other = kind then counters.get other + 1 else counters.get other := by
  cases kind <;> cases other <;> rfl

theorem Counters.get_le_advance (counters : Counters) (kind other : TokenKind) :
    counters.get other ≤ (counters.advance kind).get other := by
  rw [get_advance]
  split <;> omega

namespace Counters.Counted

variable {first last : Counters} {kind : TokenKind} {text : Text}

theorem advance (counted : first.Counted last kind text) (other : TokenKind) :
    first.Counted (last.advance other) kind text := by
  rcases counted with ⟨number, notBefore, below, same⟩
  exact ⟨number, notBefore, Nat.lt_of_lt_of_le below (last.get_le_advance other kind), same⟩

theorem next (goesOn : first.get kind ≤ last.get kind) :
    first.Counted (last.advance kind) kind (token kind (last.get kind)) := by
  refine ⟨last.get kind, goesOn, ?_, rfl⟩
  rw [get_advance, if_pos rfl]
  exact Nat.lt_succ_self _

/-- A token that is counted next is none of those that were counted. -/
theorem ne_next (counted : first.Counted last kind text) (other : TokenKind) :
    text ≠ token other (last.get other) := by
  rcases counted with ⟨number, _, below, rfl⟩
  intro same
  rcases token_inj same with ⟨rfl, rfl⟩
  exact Nat.lt_irrefl _ below

/-- Tokens that were counted one after the other differ. -/
theorem ne_of_later {later : Counters} {otherKind : TokenKind} {other : Text}
    (counted : first.Counted last kind text) (otherCounted : last.Counted later otherKind other) :
    text ≠ other := by
  rcases counted with ⟨number, _, below, rfl⟩
  rcases otherCounted with ⟨otherNumber, notBefore, _, rfl⟩
  intro same
  rcases token_inj same with ⟨rfl, rfl⟩
  exact Nat.lt_irrefl _ (Nat.lt_of_lt_of_le below notBefore)

theorem isToken (counted : first.Counted last kind text) : text.IsToken := by
  rcases counted with ⟨number, _, _, rfl⟩
  exact isToken_token kind number

end Counters.Counted

/-- The links and images that a builder at work has collected since some counts have tokens with
numbers that were counted since then, no two of them the same. -/
structure Work.Issued (first : Counters) (work : Work) : Prop where
  goesOn : ∀ kind, first.get kind ≤ work.state.counters.get kind
  links : ∀ link ∈ work.links, first.Counted work.state.counters .link link.token
  images : ∀ image ∈ work.images, ∃ kind ≠ .link,
    first.Counted work.state.counters kind image.token
  linksDiffer : (work.links.map (·.token)).Nodup
  imagesDiffer : (work.images.map (·.token)).Nodup

/-- A step keeps the collected tokens apart. Without an uploader it gives a value, and leaves to
another run what it begins with. -/
def Build.Issues (setup : Setup) {α : Type} (step : Build α) : Prop :=
  ∀ first work, work.Issued first → Meets step work
    (fun _ reached => reached.Issued first ∧
      (setup.uploader = none → reached.state.renewed = work.state.renewed))
    (fun _ reached => reached.Issued first ∧ setup.uploader ≠ none)

namespace Build.Issues

variable {α β : Type} {setup : Setup}

theorem pure (value : α) : Issues setup (pure value : Build α) :=
  fun _ _ issued => .pure value ⟨issued, fun _ => rfl⟩

theorem bind {first : Build β} {next : β → Build α} (begins : Issues setup first)
    (follows : ∀ value, Issues setup (next value)) : Issues setup (first >>= next) := by
  intro counters work issued
  refine .bind ((begins counters work issued).mono ?_ fun _ _ fails => fails)
  intro value middle holds
  refine (follows value counters middle holds.1).mono ?_ fun _ _ fails => fails
  intro _ _ later
  exact ⟨later.1, fun alone => (later.2 alone).trans (holds.2 alone)⟩

/-- A change of nothing that was collected or counted. -/
theorem keep (change : Work → Work)
    (same : ∀ work, (change work).links = work.links ∧ (change work).images = work.images ∧
      (change work).state.counters = work.state.counters)
    (renewed : setup.uploader = none → ∀ work,
      (change work).state.renewed = work.state.renewed) :
    Issues setup (modify change) := by
  intro first work issued
  rcases same work with ⟨links, images, counters⟩
  refine .modify _ ⟨⟨?_, ?_, ?_, ?_, ?_⟩, fun alone => renewed alone work⟩
  · rw [counters]
    exact issued.goesOn
  · rw [counters, links]
    exact issued.links
  · rw [counters, images]
    exact issued.images
  · rw [links]
    exact issued.linksDiffer
  · rw [images]
    exact issued.imagesDiffer

theorem report (level : Log.Level) (message : String) : Issues setup (report level message) :=
  keep _ (fun _ => ⟨rfl, rfl, rfl⟩) fun _ _ => rfl

theorem count (change : Stats → Stats) : Issues setup (count change) :=
  keep _ (fun _ => ⟨rfl, rfl, rfl⟩) fun _ _ => rfl

/-- Issuing the token of a link. -/
theorem issueLink (link : Text → Link) (isToken : ∀ token, (link token).token = token)
    {next : Text → Build α} (follows : ∀ token, Issues setup (next token)) :
    Issues setup (do
      let token ← nextToken .link
      modify fun work => { work with links := work.links ++ [link token] }
      next token) := by
  intro first work issued
  refine .bind (.bind (.get (.bind (.set _ (.pure _ (.bind (.modify _ ?_)))))))
  refine follows _ first _ ⟨?_, ?_, ?_, ?_, issued.imagesDiffer⟩
  · intro kind
    exact Nat.le_trans (issued.goesOn kind) (Counters.get_le_advance _ _ _)
  · intro other mem
    rcases List.mem_append.mp mem with mem | mem
    · exact (issued.links other mem).advance _
    · rw [List.mem_singleton.mp mem, isToken]
      exact .next (issued.goesOn _)
  · intro image mem
    rcases issued.images image mem with ⟨kind, notLink, counted⟩
    exact ⟨kind, notLink, counted.advance _⟩
  · rw [List.map_append, List.map_singleton, isToken, List.nodup_append]
    refine ⟨issued.linksDiffer, by simp, ?_⟩
    intro earlier mem last isLast
    rcases List.mem_map.mp mem with ⟨other, otherMem, rfl⟩
    rw [List.mem_singleton.mp isLast]
    exact (issued.links other otherMem).ne_next _

/-- Issuing the token of an image. -/
theorem issueImage {kind : TokenKind} (notLink : kind ≠ .link) (image : Text → Image)
    (isToken : ∀ token, (image token).token = token)
    {next : Text → Build α} (follows : ∀ token, Issues setup (next token)) :
    Issues setup (do
      let token ← nextToken kind
      modify fun work => { work with images := work.images ++ [image token] }
      next token) := by
  intro first work issued
  refine .bind (.bind (.get (.bind (.set _ (.pure _ (.bind (.modify _ ?_)))))))
  refine follows _ first _ ⟨?_, ?_, ?_, issued.linksDiffer, ?_⟩
  · intro other
    exact Nat.le_trans (issued.goesOn other) (Counters.get_le_advance _ _ _)
  · intro link mem
    exact (issued.links link mem).advance _
  · intro other mem
    rcases List.mem_append.mp mem with mem | mem
    · rcases issued.images other mem with ⟨otherKind, otherNotLink, counted⟩
      exact ⟨otherKind, otherNotLink, counted.advance _⟩
    · rw [List.mem_singleton.mp mem, isToken]
      exact ⟨kind, notLink, .next (issued.goesOn _)⟩
  · rw [List.map_append, List.map_singleton, isToken, List.nodup_append]
    refine ⟨issued.imagesDiffer, by simp, ?_⟩
    intro earlier mem last isLast
    rcases List.mem_map.mp mem with ⟨other, otherMem, rfl⟩
    rw [List.mem_singleton.mp isLast]
    rcases issued.images other otherMem with ⟨_, _, counted⟩
    exact counted.ne_next _

theorem substitute {find : Option Char → Text → Option β} {length : β → Nat}
    {act : β → Build Text} (acts : ∀ found, Issues setup (act found)) (before : Option Char)
    (skip : Nat) (text : Text) : Issues setup (substitute find length act before skip text) := by
  induction text generalizing before skip with
  | nil => exact pure []
  | cons character rest step =>
      cases skip with
      | succ skip => exact step (some character) skip
      | zero =>
          rw [Placeholder.substitute]
          split
          · rename_i found _
            exact bind (acts found) fun replacement =>
              bind (step (some character) (length found - 1)) fun following => pure _
          · exact bind (step (some character) 0) fun following => pure _

/-! ## With an uploader -/

section Uploader

variable (uploads : setup.uploader ≠ none)

include uploads

/-- A result that was asked of another part. -/
theorem ofResult (result : Except Failure α) :
    Issues setup (ExceptT.mk (Pure.pure result) : Build α) := by
  intro first work issued
  cases result with
  | ok value => exact .pure value ⟨issued, fun _ => rfl⟩
  | error failure => exact .throw failure ⟨issued, uploads⟩

theorem record (event : Event) : Issues setup (record event) :=
  keep _ (fun _ => ⟨rfl, rfl, rfl⟩) fun alone => absurd alone uploads

theorem remember (key address : String) : Issues setup (remember key address) :=
  keep _ (fun _ => ⟨rfl, rfl, rfl⟩) fun alone => absurd alone uploads

theorem cached (key : String) : Issues setup (cached key) := by
  intro first work issued
  exact .bind (.get (.bind (.set _ (.pure _
    ⟨⟨issued.goesOn, issued.links, issued.images, issued.linksDiffer, issued.imagesDiffer⟩,
      fun alone => absurd alone uploads⟩))))

theorem upload (uploader : Uploader) (path : String) : Issues setup (upload uploader path) :=
  bind (record uploads _) fun _ => ofResult uploads _

theorem render (renderer : Renderer) (code language : Text) :
    Issues setup (render renderer code language) := by
  intro first work issued
  refine .bind ((record uploads _ first work issued).mono ?_ fun _ _ fails => fails)
  rintro _ middle ⟨issued, _⟩
  refine .bind (.get (.bind ((ofResult uploads _ first middle issued).mono ?_
    fun _ _ fails => fails)))
  rintro image reached ⟨issued, _⟩
  split
  · exact .bind (.modify _ (.pure _
      ⟨⟨issued.goesOn, issued.links, issued.images, issued.linksDiffer, issued.imagesDiffer⟩,
        fun alone => absurd alone uploads⟩))
  · exact .pure _ ⟨issued, fun alone => absurd alone uploads⟩

end Uploader

/-! ## The parts of a document -/

variable (setup) (directory : Option String)

theorem uploadLocal (source : Text) : Issues setup (uploadLocal setup directory source) := by
  unfold Placeholder.uploadLocal
  split
  · rename_i uploader start isUploader
    have uploads : setup.uploader ≠ none := by
      rw [isUploader]
      exact Option.some_ne_none uploader
    generalize resolvePath setup.files start source = result
    refine bind (ofResult uploads result) fun path => ?_
    split
    · exact bind (report _ _) fun _ => pure none
    · extract_lets key
      clear_value key
      refine bind (cached uploads key) fun found => ?_
      cases found with
      | some address => exact bind (count _) fun _ => pure _
      | none =>
          exact bind (upload uploads uploader path) fun result =>
            bind (remember uploads _ _) fun _ => bind (count _) fun _ => pure _
  · exact bind (report _ _) fun _ => pure none

theorem replaceImage (image : Reference) : Issues setup (replaceImage setup directory image) := by
  unfold Placeholder.replaceImage
  extract_lets place
  have placed (address : Option Text) : Issues setup (place address) := by
    cases address with
    | none => exact pure _
    | some address =>
        exact issueImage (by decide) (fun token => ⟨token, address, image.text, .image⟩)
          (fun _ => rfl) fun token => bind (count _) fun _ => pure token
  split
  · exact bind (pure _) placed
  · exact bind (uploadLocal setup directory _) placed

theorem replaceLink (link : Reference) : Issues setup (replaceLink setup directory link) := by
  unfold Placeholder.replaceLink
  extract_lets external place
  have placed (address : Option Text) : Issues setup (place address) := by
    cases address with
    | none => exact pure _
    | some address =>
        exact issueLink (fun token => ⟨token, link.text, address, external⟩) (fun _ => rfl)
          fun token => bind (count _) fun _ => pure token
  split
  · exact bind (pure _) placed
  · split
    · exact bind (report _ _) fun _ => bind (pure none) placed
    · exact bind (uploadLocal setup directory _) placed

theorem processPlain (text : Text) : Issues setup (processPlain setup directory text) :=
  bind (substitute (replaceImage setup directory) none 0 text) fun replaced =>
    substitute (replaceLink setup directory) none 0 replaced

theorem processPieces (pieces : List (Bool × Text)) :
    Issues setup (processPieces setup directory pieces) := by
  induction pieces with
  | nil => exact pure []
  | cons piece rest step =>
      rcases piece with ⟨isCode, text⟩
      rw [Placeholder.processPieces]
      cases isCode
      · exact bind (processPlain setup directory text) fun shown =>
          bind step fun following => pure _
      · exact bind (pure text) fun shown => bind step fun following => pure _

theorem processDiagram (language body source : Text) :
    Issues setup (processDiagram setup language body source) := by
  unfold Placeholder.processDiagram
  extract_lets unrendered lowered key place
  clear_value lowered key
  have stays : Issues setup unrendered := bind (count _) fun _ => pure source
  split
  · rename_i renderer uploader _ isUploader
    have uploads : setup.uploader ≠ none := by simp [isUploader]
    refine bind (cached uploads key) fun found => ?_
    have placed (address : Option String) : Issues setup (place address) := by
      cases address with
      | none => exact bind (report _ _) fun _ => stays
      | some address =>
          exact issueImage (by decide) (fun token =>
            ⟨token, address.toList, language ++ " diagram".toList, .diagram⟩) (fun _ => rfl)
            fun token => bind (count _) fun _ => pure token
    cases found with
    | some address => exact bind (pure _) placed
    | none =>
        refine bind (render uploads renderer body lowered) fun rendered => ?_
        split
        · exact bind (pure none) placed
        · exact bind (upload uploads uploader _) fun result =>
            bind (remember uploads _ _) fun _ => bind (count _) fun _ => bind (pure _) placed
  · exact stays

theorem processSegment (segment : Segment) : Issues setup (processSegment setup directory segment) := by
  cases segment with
  | text source => exact processPieces setup directory _
  | fence language body source =>
      rw [Placeholder.processSegment]
      split
      · exact processDiagram setup _ _ _
      · exact pure _

theorem processSegments (segments : List Segment) :
    Issues setup (processSegments setup directory segments) := by
  induction segments with
  | nil => exact pure []
  | cons segment rest step =>
      rw [Placeholder.processSegments]
      exact bind (processSegment setup directory segment) fun shown =>
        bind step fun following => pure _

end Build.Issues

/-- The tokens of a document are all different, and were counted between two states of the
counters. -/
structure Built.Issued (first last : Counters) (built : Built) : Prop where
  differ : ((targets built.links built.images).map Target.token).Nodup
  counted : ∀ target ∈ targets built.links built.images,
    ∃ kind, first.Counted last kind target.token

theorem Built.Issued.isToken {first last : Counters} {built : Built}
    (issued : built.Issued first last) :
    ∀ target ∈ targets built.links built.images, target.token.IsToken := by
  intro target mem
  rcases issued.counted target mem with ⟨kind, counted⟩
  exact counted.isToken

theorem Work.Issued.built {first : Counters} {work : Work} (issued : work.Issued first)
    (markdown : Text) :
    Built.Issued first work.state.counters ⟨markdown, work.links, work.images, work.stats⟩ := by
  constructor
  · have tokens : (targets work.links work.images).map Target.token =
        work.links.map (·.token) ++ work.images.map (·.token) := by
      simp [targets, Target.token, Function.comp_def]
    rw [tokens, List.nodup_append]
    refine ⟨issued.linksDiffer, issued.imagesDiffer, ?_⟩
    intro first firstMem second secondMem same
    rcases List.mem_map.mp firstMem with ⟨link, linkMem, rfl⟩
    rcases List.mem_map.mp secondMem with ⟨image, imageMem, rfl⟩
    rcases issued.links link linkMem with ⟨_, _, _, linkToken⟩
    rcases issued.images image imageMem with ⟨kind, notLink, _, _, _, imageToken⟩
    rw [linkToken, imageToken] at same
    exact notLink (token_inj same).1.symm
  · intro target mem
    rcases List.mem_append.mp mem with mem | mem
    · rcases List.mem_map.mp mem with ⟨link, linkMem, rfl⟩
      exact ⟨.link, issued.links link linkMem⟩
    · rcases List.mem_map.mp mem with ⟨image, imageMem, rfl⟩
      rcases issued.images image imageMem with ⟨kind, _, counted⟩
      exact ⟨kind, counted⟩

section Build

variable (setup : Setup) (markdown : Text) (directory : Option String) (state : BuilderState)

/-- A document gets its tokens, or the uploader is at fault; the counters go on, and without an
uploader nothing else changes for another run. -/
theorem build_cases :
    ((∃ built, (build setup markdown directory state).1 = .ok built ∧
        built.Issued state.counters (build setup markdown directory state).2.counters) ∨
      setup.uploader ≠ none ∧
        ∃ failure, (build setup markdown directory state).1 = .error failure) ∧
    (∀ kind, state.counters.get kind ≤
      (build setup markdown directory state).2.counters.get kind) ∧
    (setup.uploader = none →
      (build setup markdown directory state).2.renewed = state.renewed) := by
  have fresh : (⟨state, [], [], .zero⟩ : Work).Issued state.counters :=
    ⟨fun _ => Nat.le_refl _, fun _ mem => absurd mem List.not_mem_nil,
      fun _ mem => absurd mem List.not_mem_nil, .nil, .nil⟩
  have meets := (Build.Issues.processSegments setup directory (segments markdown) _ _ fresh).run
  rw [Meets] at meets
  rw [build]
  split at meets
  · rcases meets with ⟨runs, issued, renewed⟩
    rw [runs]
    exact ⟨.inl ⟨_, rfl, issued.built _⟩, issued.goesOn, renewed⟩
  · rcases meets with ⟨runs, issued, uploads⟩
    rw [runs]
    exact ⟨.inr ⟨uploads, _, rfl⟩, issued.goesOn, fun alone => absurd alone uploads⟩

/-- Without an uploader, a document always gets its tokens. -/
theorem exists_build (alone : setup.uploader = none) :
    ∃ built, (build setup markdown directory state).1 = .ok built ∧
      built.Issued state.counters (build setup markdown directory state).2.counters := by
  rcases (build_cases setup markdown directory state).1 with issued | ⟨uploads, _⟩
  · exact issued
  · exact absurd alone uploads

end Build

/-! ## What tokens depend on -/

section Bare

variable {setup : Setup} (alone : setup.uploader = none) (directory : Option String)

include alone

/-- A setup without uploader, renderer and files. -/
def Setup.bare (languages : List Text) : Setup :=
  ⟨languages, none, none, default⟩

theorem uploadLocal_bare (source : Text) :
    uploadLocal setup directory source =
      uploadLocal (.bare setup.diagramLanguages) none source := by
  unfold uploadLocal
  rw [alone]
  rfl

theorem processPlain_bare (text : Text) :
    processPlain setup directory text =
      processPlain (.bare setup.diagramLanguages) none text := by
  have images : replaceImage setup directory =
      replaceImage (.bare setup.diagramLanguages) none := by
    funext image
    rw [replaceImage, replaceImage, uploadLocal_bare alone]
  have links : replaceLink setup directory =
      replaceLink (.bare setup.diagramLanguages) none := by
    funext link
    rw [replaceLink, replaceLink, uploadLocal_bare alone]
  rw [processPlain, processPlain, images, links]

theorem processPieces_bare (pieces : List (Bool × Text)) :
    processPieces setup directory pieces =
      processPieces (.bare setup.diagramLanguages) none pieces := by
  induction pieces with
  | nil => rfl
  | cons piece rest step =>
      rcases piece with ⟨isCode, text⟩
      rw [processPieces, processPieces, processPlain_bare alone, step]

theorem processSegment_bare (segment : Segment) :
    processSegment setup directory segment =
      processSegment (.bare setup.diagramLanguages) none segment := by
  cases segment with
  | text source => exact processPieces_bare alone directory _
  | fence language body source =>
      have diagrams (language : Text) : processDiagram setup language body source =
          processDiagram (.bare setup.diagramLanguages) language body source := by
        unfold processDiagram
        rw [alone]
        cases setup.renderer <;> rfl
      unfold processSegment
      dsimp only
      rw [diagrams]
      rfl

/-- Without an uploader, tokens do not depend on the renderer, the files and the directory. -/
theorem build_bare (markdown : Text) (state : BuilderState) :
    build setup markdown directory state =
      build (.bare setup.diagramLanguages) markdown none state := by
  have segmentwise (segments : List Segment) : processSegments setup directory segments =
      processSegments (.bare setup.diagramLanguages) none segments := by
    induction segments with
    | nil => rfl
    | cons segment rest step =>
        rw [processSegments, processSegments, processSegment_bare alone, step]
  rw [build, build, segmentwise]

end Bare

end DocBinder.Placeholder
