import DocBinder.Proofs.Replacement.Serving
import DocBinder.Proofs.Text.Case

/-!
# Addresses that are used again

Documents are built one after the other, and all of them share one cache. As long as the digest keeps apart
the data of what they handle, every address was brought by an errand for the same data, and no errand is run
for data that an earlier one was successful for. A material is told from others by its data, but for one case:
a file may hold what a diagram is recognized by, and each of the two gets the address of the other then.
-/

namespace DocBinder.Placeholder

/-! ## Materials with the same data -/

namespace Material

/-- A file and a diagram with the same data, in one order or the other. -/
inductive Mistaken : Material → Material → Prop where
  | file {content : ByteArray} {language code : Text}
      (same : (Material.file content).data = (Material.diagram language code).data) :
      Mistaken (.file content) (.diagram language code)
  | diagram {content : ByteArray} {language code : Text}
      (same : (Material.diagram language code).data = (Material.file content).data) :
      Mistaken (.diagram language code) (.file content)

end Material

theorem not_mem_fenceLanguage? {line language : Text} (oneLine : '\n' ∉ line)
    (isLanguage : Markdown.fenceLanguage? line = some language) : '\n' ∉ language := by
  rw [Markdown.fenceLanguage?] at isLanguage
  split at isLanguage
  · cases isLanguage
  · cases isLanguage
    intro mem
    have inside := (Text.strip_sublist _).subset mem
    exact oneLine ((Text.strip_sublist line).subset (List.mem_of_mem_drop inside))

/-- The language of a fence stands in one of the lines. -/
theorem Parted.exists_line {lines : List Text} {parts : List (List Text ⊕ Segment)}
    (parted : Parted lines parts) {language body source : Text}
    (mem : .fence (some language) body source ∈ parts.map ofPart) :
    ∃ line ∈ lines, Markdown.fenceLanguage? line = some language := by
  induction parted with
  | done => cases mem
  | text nonempty following step =>
      rcases List.mem_cons.mp mem with impossible | mem
      · cases impossible
      · rcases step mem with ⟨line, lineMem, isLanguage⟩
        exact ⟨line, List.mem_append_right _ lineMem, isLanguage⟩
  | fence opens inside closes following step =>
      rcases List.mem_cons.mp mem with same | mem
      · rw [ofPart, Segment.fence.injEq] at same
        exact ⟨_, List.mem_cons_self, same.1.symm⟩
      · rcases step mem with ⟨line, lineMem, isLanguage⟩
        refine ⟨line, List.mem_cons_of_mem _ (List.mem_append_right _ ?_), isLanguage⟩
        exact List.mem_cons_of_mem _ lineMem

theorem Job.Draws.oneLine {job : Job} {language code : Text} (draws : job.Draws language code) :
    '\n' ∉ language := by
  rcases draws with ⟨written, source, mem, _, rfl⟩
  have parted := parted_segmentLines 0 (Text.lines job.markdown)
  rcases parted.exists_line (segments_eq_map job.markdown ▸ mem) with ⟨line, lineMem, isLanguage⟩
  exact Text.not_mem_lower
    (not_mem_fenceLanguage? (Text.not_mem_of_mem_splitOn lineMem) isLanguage)

/-- Materials that jobs handle are told apart by their data, except for a file and a diagram. -/
theorem eq_or_mistaken {job other : Job} {first second : Material} (handles : job.Handles first)
    (handlesOther : other.Handles second) (same : first.data = second.data) :
    first = second ∨ first.Mistaken second := by
  cases first with
  | file content =>
      cases second with
      | file others => exact .inl (congrArg Material.file same)
      | diagram language code => exact .inr (.file same)
  | diagram language code =>
      cases second with
      | file content => exact .inr (.diagram same)
      | diagram otherLanguage otherCode =>
          have chars := String.ofList_injective (String.toByteArray_inj.mp same)
          rcases Text.append_cons_inj (Job.Draws.oneLine handles) (Job.Draws.oneLine handlesOther)
            chars with ⟨rfl, rfl⟩
          exact .inl rfl

/-! ## One document -/

/-- What a target is for is handled by the job. -/
theorem Comes.handles {job : Job} {wanted : Wanted} {put : List Placed} (comes : Comes job wanted put) :
    ∀ placed ∈ put, ∀ material, placed.material? = some material → job.Handles material := by
  cases comes with
  | imageLost | linkInside | linkLost | fenceKept | diagramLeft =>
      exact fun _ mem => absurd mem List.not_mem_nil
  | imageAway | linkAway =>
      intro placed mem material isMaterial
      rw [List.mem_singleton.mp mem] at isMaterial
      cases isMaterial
  | imageHere number address internal leads | linkHere number address internal leadsOut leads =>
      intro placed mem material isMaterial
      rw [List.mem_singleton.mp mem] at isMaterial
      cases isMaterial
      rcases leads with ⟨_, path, _, _, reads⟩
      exact ⟨path, reads⟩
  | diagram number address draws =>
      intro placed mem material isMaterial
      rw [List.mem_singleton.mp mem] at isMaterial
      cases isMaterial
      exact draws

theorem Collects.handles {job : Job} {wanted : List Wanted} {put : List Placed}
    (collects : Collects job wanted put) :
    ∀ placed ∈ put, ∀ material, placed.material? = some material → job.Handles material := by
  rcases collects with ⟨puts, come, rfl⟩
  induction come with
  | nil => exact fun _ mem => absurd mem List.not_mem_nil
  | cons comes following step =>
      intro placed mem
      rcases List.mem_append.mp mem with mem | mem
      · exact comes.handles placed mem
      · exact step placed mem

namespace Run

/-- What is wanted in the document. -/
def wanted (run : Run) : List Wanted :=
  ((segments run.job.markdown).zip
    (traces run.job.setup run.job.directory run.job.markdown run.before)).flatMap
    fun pair => wantedIn pair.1 pair.2

/-- The errands that are run for a document after those in the past are all that is asked of others. What is
placed in the finished document comes of what is wanted there, and where it has its address for a material,
errands so far answer for it. -/
structure Served (answers : List Errand → Material → Text → Prop) (run : Run)
    (past errands : List Errand) : Prop where
  fits : ∀ errand ∈ errands, errand.Fits run.job
  events : run.after.events = run.before.events ++ errands.flatMap Errand.events
  placed : ∀ built, run.result = .ok built → ∃ put, Collects run.job run.wanted put ∧
    built.links = put.filterMap Placed.link? ∧ built.images = put.filterMap Placed.image? ∧
    ∀ placed ∈ put, ∀ material, placed.material? = some material →
      answers (past ++ errands) material placed.address

theorem Served.mono {answers others : List Errand → Material → Text → Prop} {run : Run}
    {past errands : List Errand} (served : run.Served answers past errands)
    (keeps : ∀ material address, run.job.Handles material →
      answers (past ++ errands) material address → others (past ++ errands) material address) :
    run.Served others past errands where
  fits := served.fits
  events := served.events
  placed built builds := by
    rcases served.placed built builds with ⟨put, collects, links, images, answered⟩
    refine ⟨put, collects, links, images, ?_⟩
    intro placed mem material isMaterial
    exact keeps material _ (collects.handles placed mem material isMaterial)
      (answered placed mem material isMaterial)

/-- A document is served, whether it is finished or not. -/
theorem exists_served (run : Run) {past : List Errand} (holds : run.before.cache.Holds past) :
    ∃ errands, run.Served Answers past errands ∧ run.after.cache.Holds (past ++ errands) := by
  rcases run with ⟨job, state⟩
  have serves : Build.Serves job past (fun _ told put => told.length = (segments job.markdown).length ∧
        Collects job (((segments job.markdown).zip told).flatMap fun pair => wantedIn pair.1 pair.2) put)
      ((segments job.markdown).mapM (trace job.setup job.directory)) :=
    .mapM fun known segment mem => .trace mem
  rcases @Build.Serves.exists_run _ _ _ _ _ serves ⟨state, [], [], .zero⟩ holds with
    ⟨told, reached, errands, put, runs, served, collects⟩
  refine ⟨errands, ⟨served.fits, ?_, ?_⟩, ?_⟩
  · rw [after, build_eq_mapM, runs]
    exact served.events
  · intro built builds
    rw [result, build_eq_mapM, runs] at builds
    rcases Except.exists_of_map_eq_ok builds with ⟨traced, rfl, rfl⟩
    refine ⟨put, ?_, served.links, served.images, served.answered⟩
    rw [wanted, traces, runs]
    exact (collects traced rfl).2
  · rw [after, build_eq_mapM, runs]
    exact served.holds

end Run

/-! ## Many documents -/

/-- Every document in turn is served by errands of its own, after those of the documents before it. -/
def Chronicle (answers : List Errand → Material → Text → Prop) (past : List Errand)
    (history : List (Run × List Errand)) : Prop :=
  ∀ earlier run errands later, history = earlier ++ (run, errands) :: later →
    run.Served answers (past ++ earlier.flatMap Prod.snd) errands

theorem Chronicle.cons {answers : List Errand → Material → Text → Prop} {past errands : List Errand}
    {run : Run} {history : List (Run × List Errand)} (served : run.Served answers past errands)
    (follows : Chronicle answers (past ++ errands) history) :
    Chronicle answers past ((run, errands) :: history) := by
  intro earlier other own later split
  cases earlier with
  | nil =>
      cases split
      rwa [List.flatMap_nil, List.append_nil]
  | cons first earlier =>
      cases split
      rw [List.flatMap_cons, ← List.append_assoc]
      exact follows earlier other own later rfl

/-- Every errand was run for a document whose job handles its material. -/
theorem Chronicle.handles {answers : List Errand → Material → Text → Prop} {past : List Errand}
    {history : List (Run × List Errand)} (served : Chronicle answers past history) {errand : Errand}
    (mem : errand ∈ history.flatMap Prod.snd) :
    ∃ run ∈ history.map Prod.fst, run.job.Handles errand.material := by
  rcases List.mem_flatMap.mp mem with ⟨⟨run, errands⟩, entryMem, own⟩
  rcases List.append_of_mem entryMem with ⟨earlier, later, split⟩
  have fits := (served earlier run errands later split).fits errand own
  exact ⟨run, List.mem_map_of_mem entryMem, fits.handles⟩

/-- As documents are built one after the other, none of the errands is needless. -/
theorem exists_chronicle {state : BuilderState} {past : List Errand} (holds : state.cache.Holds past)
    (jobs : List Job) :
    ∃ history : List (Run × List Errand), history.map Prod.fst = runs state jobs ∧
      Chronicle Answers past history ∧
      (past ++ history.flatMap Prod.snd).Pairwise fun early late =>
        early.address?.isSome → early.material.key ≠ late.material.key := by
  induction jobs generalizing state past with
  | nil =>
      refine ⟨[], rfl, by simp [Chronicle], ?_⟩
      rw [List.flatMap_nil, List.append_nil]
      exact holds.once
  | cons job jobs step =>
      rcases (Run.mk job state).exists_served holds with ⟨errands, served, holdsThen⟩
      rcases step holdsThen with ⟨history, isHistory, follows, once⟩
      refine ⟨(⟨job, state⟩, errands) :: history, ?_, .cons served follows, ?_⟩
      · rw [List.map_cons, isHistory, runs]
      · rwa [List.flatMap_cons, ← List.append_assoc]

/-- The digest keeps apart whatever the jobs may handle. -/
def DigestsApart (jobs : List Job) : Prop :=
  ∀ job ∈ jobs, ∀ other ∈ jobs, ∀ first second, job.Handles first → other.Handles second →
    first.key = second.key → first.data = second.data

/-- One of the errands has brought an address for a material, or for the one that it is mistaken for. -/
def Brings (errands : List Errand) (material : Material) (address : Text) : Prop :=
  ∃ errand ∈ errands, errand.address?.map String.toList = some address ∧
    (errand.material = material ∨ errand.material.Mistaken material)

/-- Whatever documents are built one after the other with a cache that was empty at first, and whichever of
them fail: every address of a local file or a diagram was brought by an errand for the same file content, or
for the same language and code, or for a diagram and a file that are mistaken for one another; and after an
errand that was successful, there is none for the same data. -/
theorem runs_served {state : BuilderState} {jobs : List Job} (fresh : state.cache.entries = [])
    (apart : DigestsApart jobs) :
    ∃ history : List (Run × List Errand), history.map Prod.fst = runs state jobs ∧
      Chronicle Brings [] history ∧
      (history.flatMap Prod.snd).Pairwise fun early late =>
        early.address?.isSome → early.material.data ≠ late.material.data := by
  rcases exists_chronicle (Cache.holds_of_empty fresh) jobs with ⟨history, isHistory, served, once⟩
  have handled {run : Run} (mem : run ∈ history.map Prod.fst) : run.job ∈ jobs :=
    job_mem_of_mem_runs (isHistory ▸ mem)
  refine ⟨history, isHistory, ?_, ?_⟩
  · intro earlier run errands later split
    refine (served earlier run errands later split).mono fun material address handles answers => ?_
    rcases answers with ⟨errand, mem, sameKey, isAddress⟩
    -- The errand may have been run for an earlier document, whose job handles its material.
    have isDone : errand ∈ history.flatMap Prod.snd := by
      rw [List.nil_append] at mem
      rw [split, List.flatMap_append, List.flatMap_cons, ← List.append_assoc]
      exact List.mem_append_left _ mem
    rcases served.handles isDone with ⟨other, otherMem, otherHandles⟩
    have runMem : run ∈ history.map Prod.fst := by simp [split]
    have same := apart _ (handled otherMem) _ (handled runMem) _ _ otherHandles handles sameKey
    exact ⟨errand, mem, isAddress, eq_or_mistaken otherHandles handles same⟩
  · exact once.imp fun differs successful same => differs successful (congrArg Digest.sha256Hex same)

/-- A job for a document that links to a file with a text and holds a diagram. -/
def mixed (text : String) : Job where
  setup := {
    diagramLanguages := ["mermaid".toList]
    uploader := some fun path => .ok ⟨path, false⟩
    renderer := some fun _ _ _ => .ok (some "drawn")
    files := ⟨[], [(["a"], .file text.toUTF8)]⟩ }
  markdown := "[f](a)\n\n```mermaid\nx\n```".toList
  directory := some "/"

/-- What a path of such a job leads to. -/
theorem node?_mixed {text : String} {names : List String} {node : Node}
    (found : (mixed text).setup.files.node? names = some node) :
    node = .file text.toUTF8 ∨ node = .directory := by
  dsimp only [FileTree.node?, mixed] at found
  rw [List.lookup_cons, List.lookup_nil] at found
  split at found
  · rename_i isNode
    split at isNode
    · cases isNode
      cases found
      exact .inl rfl
    · cases isNode
  · split at found
    · cases found
      exact .inr rfl
    · cases found

theorem data_of_handles_mixed {text : String} {material : Material}
    (handles : (mixed text).Handles material) :
    material.data = text.toUTF8 ∨ material.data = "mermaid\nx".toUTF8 := by
  cases material with
  | file content =>
      rcases handles with ⟨path, reads⟩
      rcases Except.exists_of_bind_eq_ok reads with ⟨node, isNode, isContent⟩
      rcases Except.exists_of_bind_eq_ok isNode with ⟨names, _, found⟩
      split at found
      · rename_i stands
        cases found
        rcases node?_mixed stands with rfl | rfl
        · cases isContent
          exact .inl rfl
        · cases isContent
      · cases found
  | diagram language code =>
      rcases handles with ⟨written, source, mem, _, rfl⟩
      have whole : segments (mixed text).markdown = [.text "[f](a)\n".toList,
          .fence (some "mermaid".toList) "x".toList "```mermaid\nx\n```".toList] := by
        change segments "[f](a)\n\n```mermaid\nx\n```".toList = _
        decide +kernel
      rw [whole] at mem
      simp only [List.mem_cons, List.not_mem_nil, or_false, reduceCtorEq, false_or, Segment.fence.injEq,
        Option.some.injEq] at mem
      rw [mem.1, mem.2.1]
      right
      decide +kernel

theorem digestsApart_mixed {text : String} {jobs : List Job} (all : ∀ job ∈ jobs, job = mixed text)
    (differs : Digest.ofString text = Digest.ofString "mermaid\nx" → text = "mermaid\nx") :
    DigestsApart jobs := by
  intro job mem other otherMem first second handles otherHandles same
  rw [all job mem] at handles
  rw [all other otherMem] at otherHandles
  unfold Material.key at same
  rcases data_of_handles_mixed handles with isFirst | isFirst <;>
    rcases data_of_handles_mixed otherHandles with isSecond | isSecond <;>
    rw [isFirst, isSecond] at same ⊢
  · rw [differs same]
  · rw [differs same.symm]

/-- A diagram gets the address of a file that holds what the diagram is recognized by, and is not
rendered. -/
theorem not_all_rendered :
    ¬ ∀ job, DigestsApart [job] → ∀ built, (Run.mk job .initial).result = .ok built →
      ∀ image ∈ built.images, image.kind = .diagram →
        ∃ renderer uploader, job.setup.renderer = some renderer ∧ job.setup.uploader = some uploader ∧
          ∃ language code number path upload, renderer code language number = .ok (some path) ∧
            uploader path = .ok upload ∧ upload.url.toList = image.uri := by
  intro rendered
  have shares : (Run.mk (mixed "mermaid\nx") .initial).result.toOption.any (fun built =>
      built.images.any fun image => image.kind == .diagram && image.uri == "/a".toList) = true := by
    decide +kernel
  rcases (Option.any_eq_true _ _).mp shares with ⟨built, found, holds⟩
  rcases List.any_eq_true.mp holds with ⟨image, mem, isShared⟩
  simp only [Bool.and_eq_true, beq_iff_eq] at isShared
  rcases rendered (mixed "mermaid\nx") (digestsApart_mixed (by simp) fun _ => rfl) built
    (Except.toOption_eq_some.mp found) image mem isShared.1 with
    ⟨_, _, renders, uploads, _, _, _, path, upload, drawn, uploaded, isAddress⟩
  cases renders
  cases uploads
  cases drawn
  cases uploaded
  rw [isShared.2] at isAddress
  exact absurd isAddress (by decide)

/-- The same document twice, with another text in the file. -/
def apartJobs : List Job :=
  [mixed "y", mixed "y"]

theorem runs_served_mixed :
    DigestsApart apartJobs ∧
      (∀ run ∈ runs .initial apartJobs, run.result.toOption.any (fun built =>
        built.links.map Link.url == ["/a".toList] &&
          built.images.map Image.uri == ["drawn".toList]) = true) ∧
      ∃ history : List (Run × List Errand), history.map Prod.fst = runs .initial apartJobs ∧
        Chronicle Brings [] history ∧
        (history.flatMap Prod.snd).Pairwise fun early late =>
          early.address?.isSome → early.material.data ≠ late.material.data := by
  have apart : DigestsApart apartJobs := by
    refine @digestsApart_mixed "y" apartJobs (by simp [apartJobs]) fun same => ?_
    have differs : Digest.ofString "y" ≠ Digest.ofString "mermaid\nx" := by decide +kernel
    exact absurd same differs
  exact ⟨apart, List.all_eq_true.mp (by decide +kernel), runs_served rfl apart⟩

end DocBinder.Placeholder
