import DocBinder.Proofs.Replacement.Once
import Mathlib.Data.List.Forall2

/-!
# Errands for addresses

Addresses are wanted for the contents of files and for diagrams. Where the cache knows none, the material
is taken to the renderer and the uploader, and an address that comes of this errand is remembered under the
digest of the material. Hence the cache is told by the errands that were run so far: an address in it came of
an errand for a material with that digest, and every errand that was successful is known to it, so that none
is run for the same material again. This holds wherever a step of building fails.
-/

namespace DocBinder

namespace Placeholder

/-- What an address is wanted for: the content of a file, or a diagram in a language in lower case. -/
inductive Material where
  | file (content : ByteArray)
  | diagram (language code : Text)

namespace Material

/-- The data that a material is recognized by. -/
def data : Material → ByteArray
  | .file content => content
  | .diagram language code => (String.ofList (language ++ '\n' :: code)).toUTF8

/-- The digest of the data. -/
def key (material : Material) : String :=
  Digest.sha256Hex material.data

end Material

/-- An errand: what was asked for a material, and the address that has come of it. -/
structure Errand where
  material : Material
  events : List Event
  address? : Option String

/-- A diagram with a code stands in the document of a job, in a language that is one of those of
diagrams. It is given in lower case. -/
def Job.Draws (job : Job) (language code : Text) : Prop :=
  ∃ written source, .fence (some written) code source ∈ segments job.markdown ∧
    Markdown.isDiagram job.setup.diagramLanguages (some written) = true ∧
    language = Text.lower written

/-- A job may handle the files of its tree and the diagrams of its document. -/
def Job.Handles (job : Job) : Material → Prop
  | .file content => ∃ path, job.setup.files.read path = .ok content
  | .diagram language code => job.Draws language code

/-- An errand as it is run for a job. A file is uploaded. A diagram is rendered, and the rendering is
uploaded if there is one. -/
inductive Errand.Fits (job : Job) : Errand → Prop where
  | upload {uploader : Uploader} {path : String} {content : ByteArray}
      (uploads : job.setup.uploader = some uploader)
      (reads : job.setup.files.read path = .ok content) :
      Fits job ⟨.file content, [.upload path], (uploader path).toOption.map Upload.url⟩
  | render {renderer : Renderer} {language code : Text} {number : Nat}
      (renders : job.setup.renderer = some renderer) (draws : job.Draws language code)
      (nothing : ∀ path, renderer code language number = .ok (some path) → path.isEmpty = true) :
      Fits job ⟨.diagram language code, [.render code language], none⟩
  | draw {renderer : Renderer} {uploader : Uploader} {language code : Text} {number : Nat}
      {path : String} (renders : job.setup.renderer = some renderer)
      (uploads : job.setup.uploader = some uploader) (draws : job.Draws language code)
      (drawn : renderer code language number = .ok (some path)) (named : path.isEmpty = false) :
      Fits job ⟨.diagram language code, [.render code language, .upload path],
        (uploader path).toOption.map Upload.url⟩

theorem Errand.Fits.handles {job : Job} {errand : Errand} (fits : errand.Fits job) :
    job.Handles errand.material := by
  cases fits with
  | upload uploads reads => exact ⟨_, reads⟩
  | render renders draws nothing => exact draws
  | draw renders uploads draws drawn named => exact draws

/-- An address for a material has come of an errand for a material with the same digest. -/
def Answers (errands : List Errand) (material : Material) (address : Text) : Prop :=
  ∃ errand ∈ errands, errand.material.key = material.key ∧
    errand.address?.map String.toList = some address

theorem Answers.append {errands : List Errand} {material : Material} {address : Text}
    (answers : Answers errands material address) (more : List Errand) :
    Answers (errands ++ more) material address := by
  rcases answers with ⟨errand, mem, same, found⟩
  exact ⟨errand, List.mem_append_left more mem, same, found⟩

theorem answers_last (past : List Errand) (errand : Errand) {url : String}
    (isAddress : errand.address? = some url) :
    Answers (past ++ [errand]) errand.material url.toList :=
  ⟨errand, by simp, rfl, by rw [isAddress, Option.map_some]⟩

/-! ## What the cache holds -/

namespace Cache

/-- A cache is told by the errands that were run, none of which was needless. -/
structure Holds (past : List Errand) (cache : Cache) : Prop where
  explained : ∀ key address, cache.entries.lookup key = some address →
    ∃ errand ∈ past, errand.material.key = key ∧ errand.address? = some address
  known : ∀ errand ∈ past, errand.address?.isSome →
    (cache.entries.lookup errand.material.key).isSome
  once : past.Pairwise fun early late =>
    early.address?.isSome → early.material.key ≠ late.material.key

variable {past : List Errand} {cache other : Cache}

theorem holds_of_empty (empty : cache.entries = []) : cache.Holds [] where
  explained key address found := by
    rw [empty] at found
    cases found
  known _ mem := absurd mem List.not_mem_nil
  once := .nil

theorem Holds.of_entries (holds : cache.Holds past) (same : other.entries = cache.entries) :
    other.Holds past where
  explained := by
    rw [same]
    exact holds.explained
  known := by
    rw [same]
    exact holds.known
  once := holds.once

theorem lookup_put (cache : Cache) (key address other : String) :
    (cache.put key address).entries.lookup other =
      if other = key then some address else cache.entries.lookup other := by
  have passed (entries : List (String × String)) (differs : other ≠ key) :
      (entries.filter fun entry => entry.1 != key).lookup other = entries.lookup other := by
    induction entries with
    | nil => rfl
    | cons entry rest step =>
        rcases entry with ⟨name, value⟩
        by_cases isKey : name = key
        · rw [List.filter_cons_of_neg (by simp [isKey]), step, List.lookup_cons, isKey,
            beq_eq_false_iff_ne.mpr differs]
        · rw [List.filter_cons_of_pos (by simp [isKey]), List.lookup_cons, List.lookup_cons, step]
  rw [put]
  by_cases isKey : other = key
  · rw [if_pos isKey, List.lookup_cons, beq_iff_eq.mpr isKey]
  · rw [if_neg isKey, List.lookup_cons, beq_eq_false_iff_ne.mpr isKey]
    exact passed cache.entries isKey

/-- An errand is run for a material that the cache does not know, and its address is remembered if one
has come of it. -/
theorem Holds.add {errand : Errand} (holds : cache.Holds past)
    (missing : cache.entries.lookup errand.material.key = none)
    (entries : other.entries = match errand.address? with
      | none => cache.entries
      | some address => (cache.put errand.material.key address).entries) :
    other.Holds (past ++ [errand]) := by
  have once : (past ++ [errand]).Pairwise fun early late =>
      early.address?.isSome → early.material.key ≠ late.material.key := by
    refine List.pairwise_append.mpr ⟨holds.once, List.pairwise_singleton .., ?_⟩
    intro early mem late isLate successful same
    rw [List.mem_singleton.mp isLate] at same
    have known := holds.known early mem successful
    rw [same, missing] at known
    cases known
  cases isAddress : errand.address? with
  | none =>
      rw [isAddress] at entries
      refine ⟨?_, ?_, once⟩
      · intro key address found
        rw [entries] at found
        rcases holds.explained key address found with ⟨earlier, mem, explains⟩
        exact ⟨earlier, List.mem_append_left _ mem, explains⟩
      · intro earlier mem successful
        rcases List.mem_append.mp mem with mem | mem
        · rw [entries]
          exact holds.known earlier mem successful
        · rw [List.mem_singleton.mp mem, isAddress] at successful
          cases successful
  | some url =>
      rw [isAddress] at entries
      refine ⟨?_, ?_, once⟩
      · intro key address found
        rw [entries, lookup_put] at found
        split at found
        · rename_i isKey
          exact ⟨errand, by simp, isKey.symm, isAddress.trans found⟩
        · rcases holds.explained key address found with ⟨earlier, mem, explains⟩
          exact ⟨earlier, List.mem_append_left _ mem, explains⟩
      · intro earlier mem successful
        rw [entries, lookup_put]
        split
        · rfl
        · rename_i differs
          rcases List.mem_append.mp mem with mem | mem
          · exact holds.known earlier mem successful
          · exact absurd (by rw [List.mem_singleton.mp mem]) differs

end Cache

/-! ## A builder at work -/

/-- A target, and the material that its address is for if it was wanted for one. -/
structure Placed where
  target : Target
  material? : Option Material

namespace Placed

/-- The address of the target. -/
def address (placed : Placed) : Text :=
  match placed.target with
  | .link link => link.url
  | .image image => image.uri

/-- The link, if the target is one. -/
def link? (placed : Placed) : Option Link :=
  match placed.target with
  | .link link => some link
  | .image _ => none

/-- The image, if the target is one. -/
def image? (placed : Placed) : Option Image :=
  match placed.target with
  | .link _ => none
  | .image image => some image

end Placed

/-- A builder at work has run errands and placed targets, of which every one that has its address for a
material has it from an errand. -/
structure Work.Served (job : Job) (past errands : List Errand) (put : List Placed)
    (work reached : Work) : Prop where
  fits : ∀ errand ∈ errands, errand.Fits job
  events : reached.state.events = work.state.events ++ errands.flatMap Errand.events
  holds : reached.state.cache.Holds (past ++ errands)
  links : reached.links = work.links ++ put.filterMap Placed.link?
  images : reached.images = work.images ++ put.filterMap Placed.image?
  answered : ∀ placed ∈ put, ∀ material, placed.material? = some material →
    Answers (past ++ errands) material placed.address

/-- Nothing changes that errands and targets are told by. -/
structure Work.Same (work reached : Work) : Prop where
  events : reached.state.events = work.state.events
  entries : reached.state.cache.entries = work.state.cache.entries
  links : reached.links = work.links
  images : reached.images = work.images

namespace Work.Served

variable {job : Job} {past errands further : List Errand} {put own : List Placed}
  {work reached later : Work}

theorem of_same (holds : work.state.cache.Holds past) (same : work.Same reached) :
    work.Served job past [] [] reached where
  fits _ mem := absurd mem List.not_mem_nil
  events := by rw [same.events, List.flatMap_nil, List.append_nil]
  holds := by
    rw [List.append_nil]
    exact holds.of_entries same.entries
  links := by rw [same.links, List.filterMap_nil, List.append_nil]
  images := by rw [same.images, List.filterMap_nil, List.append_nil]
  answered _ mem := absurd mem List.not_mem_nil

theorem trans (served : work.Served job past errands put reached)
    (follows : reached.Served job (past ++ errands) further own later) :
    work.Served job past (errands ++ further) (put ++ own) later where
  fits errand mem := by
    rcases List.mem_append.mp mem with mem | mem
    · exact served.fits errand mem
    · exact follows.fits errand mem
  events := by
    rw [follows.events, served.events, List.flatMap_append, List.append_assoc]
  holds := by
    rw [← List.append_assoc]
    exact follows.holds
  links := by rw [follows.links, served.links, List.filterMap_append, List.append_assoc]
  images := by rw [follows.images, served.images, List.filterMap_append, List.append_assoc]
  answered placed mem material wanted := by
    rw [← List.append_assoc]
    rcases List.mem_append.mp mem with mem | mem
    · exact (served.answered placed mem material wanted).append further
    · exact follows.answered placed mem material wanted

/-- An errand is run for a material that the cache does not know. -/
theorem errand (errand : Errand) {key : String} (holds : work.state.cache.Holds past)
    (isKey : errand.material.key = key) (missing : work.state.cache.entries.lookup key = none)
    (fits : errand.Fits job)
    (events : reached.state.events = work.state.events ++ errand.events)
    (entries : reached.state.cache.entries = match errand.address? with
      | none => work.state.cache.entries
      | some address => (work.state.cache.put key address).entries)
    (links : reached.links = work.links) (images : reached.images = work.images) :
    work.Served job past [errand] [] reached where
  fits other mem := by
    rw [List.mem_singleton.mp mem]
    exact fits
  events := by rw [events, List.flatMap_singleton]
  holds := by
    subst isKey
    exact holds.add missing entries
  links := by rw [links, List.filterMap_nil, List.append_nil]
  images := by rw [images, List.filterMap_nil, List.append_nil]
  answered _ mem := absurd mem List.not_mem_nil

end Work.Served

/-- A step serves with errands after those in the past. Where it gives a result, this fits the errands run
so far and the targets that the step has placed. -/
def Build.Serves {α : Type} (job : Job) (past : List Errand)
    (fits : List Errand → α → List Placed → Prop) (step : Build α) : Prop :=
  ∀ work, work.state.cache.Holds past → Meets step work
    (fun result reached => ∃ errands put, fits (past ++ errands) result put ∧
      work.Served job past errands put reached)
    (fun _ reached => ∃ errands put, work.Served job past errands put reached)

/-- A step that neither runs errands nor places targets. -/
def Build.Idle {α : Type} (step : Build α) : Prop :=
  ∀ work, Meets step work (fun _ => work.Same) (fun _ => work.Same)

namespace Build

variable {α β : Type} {job : Job} {past : List Errand}
  {fits : List Errand → α → List Placed → Prop} {early : List Errand → β → List Placed → Prop}

namespace Serves

theorem pure {result : α} (fit : fits past result []) : Serves job past fits (pure result) :=
  fun _ holds => .pure result ⟨[], [], by rwa [List.append_nil], .of_same holds ⟨rfl, rfl, rfl, rfl⟩⟩

/-- However a step ends, errands were run and targets were placed. -/
theorem exists_run {step : Build α} (serves : Serves job past fits step) {work : Work}
    (holds : work.state.cache.Holds past) :
    ∃ result reached errands put, step.run work = (result, reached) ∧
      work.Served job past errands put reached ∧
      ∀ value, result = .ok value → fits (past ++ errands) value put := by
  have meets := serves work holds
  rw [Meets] at meets
  split at meets <;> rename_i runs
  · rcases meets with ⟨errands, put, fit, served⟩
    refine ⟨_, _, errands, put, runs, served, ?_⟩
    rintro _ ⟨⟩
    exact fit
  · rcases meets with ⟨errands, put, served⟩
    refine ⟨_, _, errands, put, runs, served, ?_⟩
    rintro _ ⟨⟩

/-- What a step comes to in the course of a longer one. -/
theorem after {step : Build α} {errands : List Errand} {own : List Placed} {work reached : Work}
    (serves : Serves job (past ++ errands) (fun known result put => fits known result (own ++ put))
      step)
    (served : work.Served job past errands own reached) :
    Meets step reached
      (fun result later => ∃ errands put, fits (past ++ errands) result put ∧
        work.Served job past errands put later)
      (fun _ later => ∃ errands put, work.Served job past errands put later) := by
  refine (serves reached served.holds).mono ?_ ?_
  · rintro result later ⟨further, put, fit, follows⟩
    refine ⟨_, _, ?_, served.trans follows⟩
    rwa [← List.append_assoc]
  · rintro failure later ⟨further, put, follows⟩
    exact ⟨_, _, served.trans follows⟩

/-- The same where no target has been placed so far. -/
theorem onward {step : Build α} {errands : List Errand} {work reached : Work}
    (serves : Serves job (past ++ errands) fits step)
    (served : work.Served job past errands [] reached) :
    Meets step reached
      (fun result later => ∃ errands put, fits (past ++ errands) result put ∧
        work.Served job past errands put later)
      (fun _ later => ∃ errands put, work.Served job past errands put later) :=
  after serves served

theorem bind {first : Build β} {next : β → Build α} (begins : Serves job past early first)
    (follows : ∀ known value own, early known value own →
      Serves job known (fun known result put => fits known result (own ++ put)) (next value)) :
    Serves job past fits (first >>= next) := by
  intro work holds
  refine .bind ((begins work holds).mono ?_ fun _ _ ends => ends)
  rintro value reached ⟨errands, own, fit, served⟩
  exact (follows _ value own fit).after served

end Serves

namespace Idle

theorem bind {first : Build β} {next : β → Build α} (idle : Idle first)
    (follows : ∀ value, Serves job past fits (next value)) :
    Serves job past fits (first >>= next) := by
  intro work holds
  refine .bind ((idle work).mono ?_ ?_)
  · intro value reached same
    refine Serves.onward ?_ (.of_same holds same)
    rw [List.append_nil]
    exact follows value
  · intro failure reached same
    exact ⟨[], [], .of_same holds same⟩

theorem modify (change : Work → Work) (same : ∀ work, Work.Same work (change work)) :
    Idle (modify change : Build PUnit) :=
  fun work => .modify _ (same work)

theorem report (level : Log.Level) (message : String) : Idle (report level message) :=
  modify _ fun _ => ⟨rfl, rfl, rfl, rfl⟩

theorem count (change : Stats → Stats) : Idle (count change) :=
  modify _ fun _ => ⟨rfl, rfl, rfl, rfl⟩

end Idle

/-- What a result that is known already is followed by. -/
theorem Serves.ofResult {result : Except Failure β} {next : β → Build α}
    (follows : ∀ value, result = .ok value → Serves job past fits (next value)) :
    Serves job past fits (ExceptT.mk (Pure.pure result) >>= next) := by
  intro work holds
  refine .bind (.lift ?_ ?_)
  · exact fun value isValue => follows value isValue work holds
  · exact fun _ _ => ⟨[], [], .of_same holds ⟨rfl, rfl, rfl, rfl⟩⟩

theorem meets_cached (key : String) (work : Work) :
    Meets (Placeholder.cached key) work
      (fun found reached => found = work.state.cache.entries.lookup key ∧ work.Same reached)
      never := by
  refine .bind (.get (.bind (.set _ (.pure _ ?_))))
  dsimp only [Cache.get]
  split <;> rename_i found
  · exact ⟨found.symm, rfl, rfl, rfl, rfl⟩
  · exact ⟨found.symm, rfl, rfl, rfl, rfl⟩

/-- The cache is asked. What it does not know yet is left to the errand that follows. -/
theorem Serves.cached {material : Material} {key : String} {next : Option String → Build α}
    (isKey : material.key = key)
    (found : ∀ address : String, Answers past material address.toList →
      Serves job past fits (next (some address)))
    (missing : ∀ work : Work, work.state.cache.Holds past →
      work.state.cache.entries.lookup key = none → Meets (next none) work
        (fun result reached => ∃ errands put, fits (past ++ errands) result put ∧
          work.Served job past errands put reached)
        (fun _ reached => ∃ errands put, work.Served job past errands put reached)) :
    Serves job past fits (Placeholder.cached key >>= next) := by
  subst isKey
  intro work holds
  refine .bind ((meets_cached _ work).mono ?_ fun _ _ impossible => impossible.elim)
  rintro _ reached ⟨rfl, same⟩
  have begins : work.Served job past [] [] reached := .of_same holds same
  cases isFound : work.state.cache.entries.lookup material.key with
  | some address =>
      rcases holds.explained _ _ isFound with ⟨errand, mem, sameKey, isAddress⟩
      refine Serves.onward ?_ begins
      rw [List.append_nil]
      exact found address ⟨errand, mem, sameKey, by rw [isAddress, Option.map_some]⟩
  | none =>
      refine (missing reached (holds.of_entries same.entries) (same.entries ▸ isFound)).mono ?_ ?_
      · rintro result later ⟨errands, put, fit, served⟩
        exact ⟨errands, put, fit, begins.trans (by rwa [List.append_nil])⟩
      · rintro failure later ⟨errands, put, served⟩
        exact ⟨errands, put, begins.trans (by rwa [List.append_nil])⟩

end Build

end Placeholder

end DocBinder
