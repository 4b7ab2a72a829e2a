import DocBinder.Proofs.Replacement.Errands

/-!
# What a document is served with

Images, links and fences of a document come to their targets one by one. A local reference has its address
for the content of the file that it leads to, and a diagram for its language and code. What is left without a
target is so for a reason: it stays inside the project, no address can be had, or it is no diagram.
-/

namespace DocBinder.Placeholder

/-- What a target may be placed for: an image or a link that is read, or a fence. -/
inductive Wanted where
  | image (image : Reference)
  | link (link : Reference)
  | fence (language : Option Text) (body : Text)

/-- From the directory of a job, a source leads to a file with a content. -/
def Job.Leads (job : Job) (source : Text) (content : ByteArray) : Prop :=
  ∃ start path, job.directory = some start ∧ resolvePath job.setup.files start source = .ok path ∧
    job.setup.files.read path = .ok content

/-- A source has no address: nothing is uploaded, or it leads to no file. -/
def Job.Lost (job : Job) (source : Text) : Prop :=
  job.setup.uploader = none ∨ ∀ content, ¬ job.Leads source content

/-- A diagram has no address: nothing is rendered or uploaded, or the renderer has made nothing of it. -/
def Job.Undrawn (job : Job) (language code : Text) : Prop :=
  job.setup.renderer = none ∨ job.setup.uploader = none ∨
    ∃ renderer number image, job.setup.renderer = some renderer ∧
      renderer code language number = .ok image ∧ image.filter (fun path => !path.isEmpty) = none

/-- An address for a source is one for the content that the source leads to. Nothing is placed for it
yet. -/
def Job.Finds (job : Job) (source : Text) (known : List Errand) (address? : Option Text)
    (put : List Placed) : Prop :=
  put = [] ∧ (address? = none → job.Lost source) ∧ ∀ address, address? = some address →
    ∃ content, job.Leads source content ∧ Answers known (.file content) address

theorem Job.finds_none {job : Job} {source : Text} {known : List Errand} (lost : job.Lost source) :
    job.Finds source known none [] :=
  ⟨rfl, fun _ => lost, by rintro _ ⟨⟩⟩

theorem Job.finds_some {job : Job} {source address : Text} {known : List Errand} {content : ByteArray}
    (leads : job.Leads source content) (answers : Answers known (.file content) address) :
    job.Finds source known (some address) [] := by
  refine ⟨rfl, by rintro ⟨⟩, ?_⟩
  rintro _ ⟨⟩
  exact ⟨content, leads, answers⟩

/-- What is placed for one thing that is wanted: nothing where no address can be had or none is needed, a
target with the address that stands there, or a target whose address is for a material. -/
inductive Comes (job : Job) : Wanted → List Placed → Prop where
  | imageLost {image : Reference} (internal : isExternal image.target = false)
      (lost : job.Lost image.target) : Comes job (.image image) []
  | imageAway {image : Reference} (number : Nat) (external : isExternal image.target = true) :
      Comes job (.image image)
        [⟨.image ⟨token .image number, image.target, image.text, .image⟩, none⟩]
  | imageHere {image : Reference} {content : ByteArray} (number : Nat) (address : Text)
      (internal : isExternal image.target = false)
      (leads : job.Leads image.target content) :
      Comes job (.image image)
        [⟨.image ⟨token .image number, address, image.text, .image⟩, some (.file content)⟩]
  | linkInside {link : Reference} (internal : isExternal link.target = false)
      (inside : isInternal link.target = true) : Comes job (.link link) []
  | linkLost {link : Reference} (internal : isExternal link.target = false)
      (leadsOut : isInternal link.target = false) (lost : job.Lost (withoutAnchor link.target)) :
      Comes job (.link link) []
  | linkAway {link : Reference} (number : Nat) (external : isExternal link.target = true) :
      Comes job (.link link)
        [⟨.link ⟨token .link number, link.text, link.target, true⟩, none⟩]
  | linkHere {link : Reference} {content : ByteArray} (number : Nat) (address : Text)
      (internal : isExternal link.target = false) (leadsOut : isInternal link.target = false)
      (leads : job.Leads (withoutAnchor link.target) content) :
      Comes job (.link link)
        [⟨.link ⟨token .link number, link.text, address, false⟩, some (.file content)⟩]
  | fenceKept {language : Option Text} {body : Text}
      (kept : Markdown.isDiagram job.setup.diagramLanguages language = false) :
      Comes job (.fence language body) []
  | diagramLeft {language body : Text} (undrawn : job.Undrawn (Text.lower language) body) :
      Comes job (.fence (some language) body) []
  | diagram {language body : Text} (number : Nat) (address : Text)
      (draws : job.Draws (Text.lower language) body) :
      Comes job (.fence (some language) body)
        [⟨.image ⟨token .diagram number, address, language ++ " diagram".toList, .diagram⟩,
          some (.diagram (Text.lower language) body)⟩]

/-- What is placed for things that are wanted, one after another. -/
def Collects (job : Job) (wanted : List Wanted) (put : List Placed) : Prop :=
  ∃ puts, List.Forall₂ (Comes job) wanted puts ∧ put = puts.flatten

namespace Collects

variable {job : Job}

theorem nil : Collects job [] [] :=
  ⟨[], .nil, rfl⟩

theorem single {wanted : Wanted} {put : List Placed} (comes : Comes job wanted put) :
    Collects job [wanted] put :=
  ⟨[put], .cons comes .nil, by simp⟩

theorem append {first second : List Wanted} {put own : List Placed}
    (begins : Collects job first put) (follows : Collects job second own) :
    Collects job (first ++ second) (put ++ own) := by
  rcases begins with ⟨puts, come, rfl⟩
  rcases follows with ⟨owns, comeToo, rfl⟩
  exact ⟨puts ++ owns, List.rel_append come comeToo, List.flatten_append.symm⟩

end Collects

namespace Stage

/-- What is wanted in a piece: its images, and then the links that are read among their tokens. -/
def wanted (stage : Stage) : List Wanted :=
  stage.images.map .image ++ stage.links.map .link

end Stage

/-- What is wanted in a part of a document. -/
def wantedIn : Segment → Trace → List Wanted
  | .text _, trace => trace.stages.flatMap Stage.wanted
  | .fence language body _, _ => [.fence language body]

/-- Nothing has changed but that others were asked. -/
structure Work.Asked (asked : List Event) (work reached : Work) : Prop where
  events : reached.state.events = work.state.events ++ asked
  cache : reached.state.cache = work.state.cache
  links : reached.links = work.links
  images : reached.images = work.images

/-- Others were asked in vain for a material that the cache does not know. -/
theorem Work.Served.inVain {job : Job} {past : List Errand} {work reached : Work} {material : Material}
    {key : String} {asked : List Event} (holds : work.state.cache.Holds past)
    (isKey : material.key = key) (missing : work.state.cache.entries.lookup key = none)
    (asks : work.Asked asked reached) (fits : Errand.Fits job ⟨material, asked, none⟩) :
    work.Served job past [⟨material, asked, none⟩] [] reached :=
  .errand ⟨material, asked, none⟩ holds isKey missing fits asks.events (by rw [asks.cache]) asks.links
    asks.images

namespace Build

theorem meets_nextToken (kind : TokenKind) (work : Work) :
    Meets (nextToken kind) work
      (fun shown reached => (∃ number, shown = token kind number) ∧ work.Same reached) never :=
  .bind (.get (.bind (.set _ (.pure _ ⟨⟨_, rfl⟩, rfl, rfl, rfl, rfl⟩))))

namespace Serves

variable {α β : Type} {job : Job} {past : List Errand}
  {fits : List Errand → α → List Placed → Prop}

/-- A token is taken, and its target is placed. -/
theorem place (kind : TokenKind) (collect : Text → Work → Work) (placed : Text → Placed)
    (collects : ∀ token work, (collect token work).state = work.state ∧
      (collect token work).links = work.links ++ [placed token].filterMap Placed.link? ∧
      (collect token work).images = work.images ++ [placed token].filterMap Placed.image?)
    (answered : ∀ token material, (placed token).material? = some material →
      Answers past material (placed token).address)
    {next : Text → Build α}
    (follows : ∀ number, Serves job past
      (fun known result put => fits known result (placed (token kind number) :: put))
      (next (token kind number))) :
    Serves job past fits (do
      let token ← nextToken kind
      modify (collect token)
      next token) := by
  intro work holds
  refine .bind ((meets_nextToken kind work).mono ?_ fun _ _ impossible => impossible.elim)
  rintro _ reached ⟨⟨number, rfl⟩, same⟩
  refine .bind (.modify _ ?_)
  have served : work.Served job past [] [placed (token kind number)]
      (collect (token kind number) reached) := by
    rcases collects (token kind number) reached with ⟨state, links, images⟩
    refine ⟨fun _ mem => absurd mem List.not_mem_nil, ?_, ?_, ?_, ?_, ?_⟩
    · rw [state, same.events, List.flatMap_nil, List.append_nil]
    · rw [state, List.append_nil]
      exact holds.of_entries same.entries
    · rw [links, same.links]
    · rw [images, same.images]
    · intro other mem material wanted
      rw [List.mem_singleton.mp mem] at wanted ⊢
      rw [List.append_nil]
      exact answered _ material wanted
  refine after ?_ served
  rw [List.append_nil]
  exact follows number

/-- Others were asked for a material that the cache does not know, and in the end a file is uploaded, whose
address is remembered. -/
theorem uploaded {start work : Work} {material : Material} {key path : String} {asked : List Event}
    {uploader : Uploader} (fits : List Errand → α → List Placed → Prop)
    (holds : start.state.cache.Holds past) (isKey : material.key = key)
    (missing : start.state.cache.entries.lookup key = none) (asks : start.Asked asked work)
    (errand : Errand.Fits job
      ⟨material, asked ++ [.upload path], (uploader path).toOption.map Upload.url⟩)
    {next : Upload → Build α}
    (follows : ∀ known result, Answers known material result.url.toList →
      Serves job known fits (next result)) :
    Meets (do
      let result ← upload uploader path
      remember key result.url
      next result) work
      (fun result reached => ∃ errands put, fits (past ++ errands) result put ∧
        start.Served job past errands put reached)
      (fun _ reached => ∃ errands put, start.Served job past errands put reached) := by
  have uploads : start.Asked (asked ++ [.upload path])
      { work with state := { work.state with events := work.state.events ++ [.upload path] } } :=
    ⟨by rw [asks.events, List.append_assoc], asks.cache, asks.links, asks.images⟩
  refine .bind (.bind (.modify _ (.lift ?_ ?_)))
  · intro result isResult
    rw [isResult] at errand
    refine .bind (.modify _ ((follows _ result ?_).onward (.errand
      ⟨material, asked ++ [.upload path], some result.url⟩ holds isKey missing errand uploads.events ?_
      uploads.links uploads.images)))
    · exact answers_last past ⟨material, asked ++ [.upload path], some result.url⟩ rfl
    · rw [← uploads.cache]
  · intro failure isFailure
    rw [isFailure] at errand
    exact ⟨_, [], .inVain holds isKey missing uploads errand⟩

/-- A local file has its address for its content, or none can be had. -/
theorem uploadLocal (source : Text) :
    Serves job past (job.Finds source) (uploadLocal job.setup job.directory source) := by
  unfold Placeholder.uploadLocal
  split
  · rename_i uploader start uploads starts
    refine ofResult fun path leads => ?_
    split
    · rename_i refusal refused
      refine Idle.bind (.report _ _) fun _ => pure (Job.finds_none (.inr ?_))
      rintro content ⟨other, place, isStart, leadsThere, reads⟩
      rw [starts, Option.some.injEq] at isStart
      subst isStart
      rw [leads, Except.ok.injEq] at leadsThere
      rw [← leadsThere, refused] at reads
      cases reads
    · rename_i content reads
      have leadsTo : job.Leads source content := ⟨start, path, starts, leads, reads⟩
      extract_lets key
      have isKey : (Material.file content).key = key := rfl
      clear_value key
      refine cached isKey ?_ ?_
      · exact fun address answers =>
          Idle.bind (.count _) fun _ => pure (Job.finds_some leadsTo answers)
      · intro work holds missing
        dsimp only
        have asks : work.Asked [] work := ⟨by rw [List.append_nil], rfl, rfl, rfl⟩
        exact uploaded (job.Finds source) holds isKey missing asks (.upload uploads reads)
          fun known result answers =>
            Idle.bind (.count _) fun _ => pure (Job.finds_some leadsTo answers)
  · rename_i unable
    refine Idle.bind (.report _ _) fun _ => pure (Job.finds_none ?_)
    cases uploads : job.setup.uploader with
    | none => exact .inl uploads
    | some uploader =>
        right
        rintro content ⟨start, _, starts, _⟩
        exact unable uploader start uploads starts

theorem replaceImage (image : Reference) :
    Serves job past (fun _ _ put => Collects job [.image image] put)
      (replaceImage job.setup job.directory image) := by
  unfold Placeholder.replaceImage
  extract_lets placing
  have puts (known : List Errand) (address : Text) (material? : Option Material)
      (comes : ∀ number, Comes job (.image image)
        [⟨.image ⟨token .image number, address, image.text, .image⟩, material?⟩])
      (answers : ∀ material, material? = some material → Answers known material address) :
      Serves job known (fun _ _ put => Collects job [.image image] put)
        (placing (some address)) := by
    refine place .image
      (fun token work => { work with images := work.images ++ [⟨token, address, image.text, .image⟩] })
      (fun token => ⟨.image ⟨token, address, image.text, .image⟩, material?⟩)
      (fun _ _ => ⟨rfl, (List.append_nil _).symm, rfl⟩) (fun _ => answers)
      fun number => Idle.bind (.count _) fun _ => pure (.single (comes number))
  split
  · rename_i external
    rw [pure_bind]
    exact puts past image.target none (fun number => .imageAway number external) nofun
  · rename_i internal
    refine bind (uploadLocal image.target) ?_
    rintro known address? own ⟨rfl, lost, answered⟩
    have isHere : isExternal image.target = false := Bool.eq_false_iff.mpr internal
    cases address? with
    | none => exact pure (.single (.imageLost isHere (lost rfl)))
    | some address =>
        rcases answered address rfl with ⟨content, leads, answers⟩
        refine puts known address (some (.file content)) (fun number =>
          .imageHere number address isHere leads) ?_
        rintro _ ⟨⟩
        exact answers

theorem replaceLink (link : Reference) :
    Serves job past (fun _ _ put => Collects job [.link link] put)
      (replaceLink job.setup job.directory link) := by
  unfold Placeholder.replaceLink
  extract_lets external placing
  have puts (known : List Errand) (address : Text) (material? : Option Material)
      (comes : ∀ number, Comes job (.link link)
        [⟨.link ⟨token .link number, link.text, address, external⟩, material?⟩])
      (answers : ∀ material, material? = some material → Answers known material address) :
      Serves job known (fun _ _ put => Collects job [.link link] put)
        (placing (some address)) := by
    refine place .link
      (fun token work => { work with links := work.links ++ [⟨token, link.text, address, external⟩] })
      (fun token => ⟨.link ⟨token, link.text, address, external⟩, material?⟩)
      (fun _ _ => ⟨rfl, rfl, (List.append_nil _).symm⟩) (fun _ => answers)
      fun number => Idle.bind (.count _) fun _ => pure (.single (comes number))
  split
  · rename_i isExternal
    rw [pure_bind]
    refine puts past link.target none (fun number => ?_) nofun
    rw [show external = true from isExternal]
    exact .linkAway number isExternal
  · rename_i notExternal
    have isHere : external = false := Bool.eq_false_iff.mpr notExternal
    split
    · rename_i inside
      refine Idle.bind (.report _ _) fun _ => ?_
      rw [pure_bind]
      exact pure (.single (.linkInside isHere inside))
    · rename_i leadsOut
      rw [Bool.not_eq_true] at leadsOut
      refine bind (uploadLocal _) ?_
      rintro known address? own ⟨rfl, lost, answered⟩
      cases address? with
      | none => exact pure (.single (.linkLost isHere leadsOut (lost rfl)))
      | some address =>
          rcases answered address rfl with ⟨content, leads, answers⟩
          refine puts known address (some (.file content)) (fun number => ?_) ?_
          · rw [isHere]
            exact .linkHere number address isHere leadsOut leads
          · rintro _ ⟨⟩
            exact answers

/-- References are replaced one by one, from left to right. -/
theorem substitute {find : Option Char → Text → Option Reference} {wanted : Reference → Wanted}
    {act : Reference → Build Text}
    (acts : ∀ known reference, Serves job known
      (fun _ _ put => Collects job [wanted reference] put) (act reference))
    (before : Option Char) (skip : Nat) (text : Text) :
    Serves job past
      (fun _ _ put => Collects job
        ((finds find (·.source.length) before skip text).map wanted) put)
      (substitute find (·.source.length) act before skip text) := by
  induction text generalizing past before skip with
  | nil => exact pure .nil
  | cons character rest step =>
      cases skip with
      | succ skip => exact step (some character) skip
      | zero =>
          cases isFound : find before (character :: rest) with
          | some reference =>
              rw [Placeholder.substitute, finds, isFound]
              refine bind (acts past reference) fun known replacement own comes =>
                bind (step (some character) (reference.source.length - 1))
                  fun later shown put following => pure ?_
              rw [List.append_nil]
              exact comes.append following
          | none =>
              rw [Placeholder.substitute, finds, isFound]
              refine bind (step (some character) 0) fun known shown put following => pure ?_
              rwa [List.append_nil]

theorem putImages (text : Text) :
    Serves job past (fun _ _ put => Collects job ((imagesIn text).map .image) put)
      (putImages job.setup job.directory text) :=
  substitute (fun _ => replaceImage) none 0 text

theorem putLinks (text : Text) :
    Serves job past (fun _ _ put => Collects job ((linksIn text).map .link) put)
      (putLinks job.setup job.directory text) :=
  substitute (fun _ => replaceLink) none 0 text

theorem stage (piece : Bool × Text) :
    Serves job past (fun _ stage put => Collects job stage.wanted put)
      (stage job.setup job.directory piece) := by
  rcases piece with ⟨isCode, text⟩
  cases isCode
  · refine bind (putImages text) fun known imaged images imagesCome =>
      bind (putLinks imaged) fun later linked links linksCome => pure ?_
    rw [List.append_nil]
    exact imagesCome.append linksCome
  · exact pure .nil

/-- Steps are taken one by one. -/
theorem mapM {items : List α} {act : α → Build β} {wanted : α → β → List Wanted}
    (acts : ∀ known, ∀ item ∈ items, Serves job known
      (fun _ result put => Collects job (wanted item result) put) (act item)) :
    Serves job past
      (fun _ results put => results.length = items.length ∧
        Collects job ((items.zip results).flatMap fun pair => wanted pair.1 pair.2) put)
      (items.mapM act) := by
  induction items generalizing past with
  | nil =>
      rw [List.mapM_nil]
      exact pure ⟨rfl, .nil⟩
  | cons item items step =>
      have further := fun {past : List Errand} => @step past fun known other mem =>
        acts known other (List.mem_cons_of_mem _ mem)
      rw [List.mapM_cons]
      refine bind (acts past item List.mem_cons_self) fun known result own comes =>
        bind further fun later results put following => pure ⟨?_, ?_⟩
      · rw [List.length_cons, List.length_cons, following.1]
      · rw [List.append_nil]
        exact comes.append following.2

/-- The renderer is asked for a diagram. -/
theorem meets_render (renderer : Renderer) (code language : Text) (work : Work) :
    Meets (render renderer code language) work
      (fun image reached => (∃ number, renderer code language number = .ok image) ∧
        work.Asked [.render code language] reached)
      (fun failure reached => (∃ number, renderer code language number = .error failure) ∧
        work.Asked [.render code language] reached) := by
  refine .bind (.modify _ (.bind (.get (.bind (.lift ?_ ?_)))))
  · intro image isImage
    split
    · exact .bind (.modify _ (.pure _ ⟨⟨_, isImage⟩, rfl, rfl, rfl, rfl⟩))
    · exact .pure _ ⟨⟨_, isImage⟩, rfl, rfl, rfl, rfl⟩
  · exact fun failure isFailure => ⟨⟨_, isFailure⟩, rfl, rfl, rfl, rfl⟩

/-- A diagram has its address for its language and code, or is left as it is. -/
theorem processDiagram {language : Text} (body source : Text)
    (draws : job.Draws (Text.lower language) body) :
    Serves job past (fun _ _ put => Collects job [.fence (some language) body] put)
      (processDiagram job.setup language body source) := by
  unfold Placeholder.processDiagram
  extract_lets unrendered lowered key placing
  have isKey : (Material.diagram lowered body).key = key := rfl
  clear_value key
  have stays (known : List Errand) (undrawn : job.Undrawn lowered body) : Serves job known
      (fun _ _ put => Collects job [.fence (some language) body] put) unrendered :=
    Idle.bind (.count _) fun _ => pure (.single (.diagramLeft undrawn))
  split
  · rename_i renderer uploader renders uploads
    have leaves (known : List Errand) (undrawn : job.Undrawn lowered body) : Serves job known
        (fun _ _ put => Collects job [.fence (some language) body] put) (placing none) :=
      Idle.bind (.report _ _) fun _ => stays known undrawn
    have puts (known : List Errand) (address : String)
        (answers : Answers known (.diagram lowered body) address.toList) :
        Serves job known (fun _ _ put => Collects job [.fence (some language) body] put)
          (placing (some address)) := by
      refine place .diagram
        (fun token work => { work with images := work.images ++
          [⟨token, address.toList, language ++ " diagram".toList, .diagram⟩] })
        (fun token => ⟨.image ⟨token, address.toList, language ++ " diagram".toList, .diagram⟩,
          some (.diagram lowered body)⟩)
        (fun _ _ => ⟨rfl, (List.append_nil _).symm, rfl⟩) ?_
        fun number => Idle.bind (.count _) fun _ =>
          pure (.single (.diagram number address.toList draws))
      rintro _ _ ⟨⟩
      exact answers
    refine cached isKey ?_ ?_
    · intro address answers
      dsimp only
      rw [pure_bind]
      exact puts past address answers
    · intro work holds missing
      refine .bind ((meets_render renderer body lowered work).mono ?_ ?_)
      · rintro rendered reached ⟨⟨number, isRendered⟩, asks⟩
        split
        · rename_i noPath
          have nothing : ∀ path, renderer body lowered number = .ok (some path) →
              path.isEmpty = true := by
            intro path drawn
            rw [isRendered, Except.ok.injEq] at drawn
            simpa [drawn, Option.filter_some] using noPath
          have undrawn : job.Undrawn lowered body :=
            .inr (.inr ⟨renderer, number, rendered, renders, isRendered, noPath⟩)
          rw [pure_bind]
          exact (leaves _ undrawn).onward
            (.inVain holds isKey missing asks (.render renders draws nothing))
        · rename_i path isPath
          rcases Option.filter_eq_some_iff.mp isPath with ⟨rfl, named⟩
          rw [Bool.not_eq_true'] at named
          refine uploaded (fun _ _ put => Collects job [.fence (some language) body] put) holds isKey
            missing asks (.draw renders uploads draws isRendered named) fun known result answers => ?_
          refine Idle.bind (.count _) fun _ => ?_
          rw [pure_bind]
          exact puts known result.url answers
      · rintro failure reached ⟨⟨number, isFailure⟩, asks⟩
        have nothing : ∀ path, renderer body lowered number = .ok (some path) →
            path.isEmpty = true := by
          intro path drawn
          rw [isFailure] at drawn
          cases drawn
        exact ⟨_, [], .inVain holds isKey missing asks (.render renders draws nothing)⟩
  · rename_i unable
    refine stays past ?_
    cases renders : job.setup.renderer with
    | none => exact .inl renders
    | some renderer =>
        cases uploads : job.setup.uploader with
        | none => exact .inr (.inl uploads)
        | some uploader => exact (unable renderer uploader renders uploads).elim

/-- A part of the document of a job comes to the targets of what is wanted in it. -/
theorem trace {segment : Segment} (mem : segment ∈ segments job.markdown) :
    Serves job past (fun _ trace put => Collects job (wantedIn segment trace) put)
      (trace job.setup job.directory segment) := by
  cases segment with
  | text source =>
      refine bind (mapM fun known piece _ => stage piece) ?_
      rintro known stages put ⟨length, comes⟩
      refine pure ?_
      rw [← List.flatMap_map Prod.snd Stage.wanted, List.map_snd_zip (Nat.le_of_eq length)] at comes
      rwa [List.append_nil]
  | fence language body source =>
      have shows : Serves job past (fun _ _ put => Collects job [.fence language body] put)
          (processSegment job.setup job.directory (.fence language body source)) := by
        rw [processSegment]
        split
        · rename_i isDiagram
          cases language with
          | none => cases isDiagram
          | some language =>
              exact processDiagram body source ⟨language, source, mem, isDiagram, rfl⟩
        · rename_i kept
          exact pure (.single (.fenceKept (Bool.eq_false_iff.mpr kept)))
      refine bind shows fun known shown put comes => pure ?_
      rwa [List.append_nil]

end Serves

end Build

end DocBinder.Placeholder
