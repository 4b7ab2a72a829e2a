import DocBinder.Proofs.Replacement.Telling

/-!
# Tokens of many documents

A builder makes documents one after the other, some of which may fail. No token is issued twice. Where
a document without the brackets of tokens is finished, each of its tokens stands in it once, unless a
link was read across the token of an image, which is lost with the target of the link then.
-/

namespace DocBinder.Placeholder

/-- A document to build, and what the builder works with then. -/
structure Job where
  setup : Setup
  markdown : Text
  directory : Option String

/-- A builder that starts on a document. -/
structure Run where
  job : Job
  before : BuilderState

namespace Run

variable (run : Run)

/-- What the builder makes of the document. -/
def result : Except Failure Built :=
  (build run.job.setup run.job.markdown run.job.directory run.before).1

/-- The builder afterwards, whether it has failed or not. -/
def after : BuilderState :=
  (build run.job.setup run.job.markdown run.job.directory run.before).2

/-- The tokens that are issued for the document. -/
def issued : List Text :=
  issuedBetween run.before.counters run.after.counters

/-- The links that are read in the document. -/
def links : List Reference :=
  (traces run.job.setup run.job.directory run.job.markdown run.before).flatMap Trace.links

/-- The tokens of another document do not stand in the document. -/
def Apart (other : Run) : Prop :=
  KeepsApart run.links → ∀ built, run.result = .ok built →
    ∀ token ∈ other.issued, ¬ token <:+: built.markdown

theorem before_after : run.before.counters.Before run.after.counters :=
  (build_cases run.job.setup run.job.markdown run.job.directory run.before).2.1

theorem isToken {token : Text} (mem : token ∈ run.issued) : token.IsToken := by
  rcases mem_issuedBetween.mp mem with ⟨_, counted⟩
  exact counted.isToken

/-- The tokens of the targets of a document are those that were issued for it. -/
theorem targets_perm {built : Built} (builds : run.result = .ok built) :
    ((targets built.links built.images).map Target.token).Perm run.issued := by
  rcases build_traced builds with ⟨_, put, _, collected, issued⟩
  exact collected.trans issued

/-- What a finished document tells are the tokens that were issued for it. -/
theorem tells {built : Built} (builds : run.result = .ok built)
    (calm : ¬ opening <:+: run.job.markdown) (keepsApart : KeepsApart run.links) :
    ∃ put, Tells built.markdown run.links put ∧ put.Perm run.issued := by
  rcases build_traced builds with ⟨shows, put, follows, _, issued⟩
  refine ⟨put, ?_, issued⟩
  rw [shows]
  apply tells_traces follows
  · intro segment mem isInfix
    exact calm (isInfix.trans (segments_isInfix mem))
  · intro trace mem link linkMem
    exact keepsApart link (List.mem_flatMap.mpr ⟨trace, mem, linkMem⟩)

/-- A token stands in a finished document exactly if it was issued for it and no link was read across
it. -/
theorem isInfix_iff {built : Built} (builds : run.result = .ok built)
    (calm : ¬ opening <:+: run.job.markdown) (keepsApart : KeepsApart run.links) {token : Text}
    (isToken : token.IsToken) :
    token <:+: built.markdown ↔ token ∈ run.issued ∧ ∀ link ∈ run.links, ¬ token <:+: link.source := by
  rcases run.tells builds calm keepsApart with ⟨put, tells, perm⟩
  rw [tells.isInfix_iff (perm.nodup_iff.mpr nodup_issuedBetween) isToken, perm.mem_iff]

end Run

/-- A builder starts on one document after the other, in the state that the last one has left. -/
def runs (state : BuilderState) : List Job → List Run
  | [] => []
  | job :: jobs => ⟨job, state⟩ :: runs (Run.mk job state).after jobs

theorem job_mem_of_mem_runs {state : BuilderState} {jobs : List Job} {run : Run}
    (mem : run ∈ runs state jobs) : run.job ∈ jobs := by
  induction jobs generalizing state with
  | nil => cases mem
  | cons job jobs step =>
      rcases List.mem_cons.mp mem with rfl | mem
      · exact List.mem_cons_self
      · exact List.mem_cons_of_mem _ (step mem)

/-- The tokens of all documents are those that were issued on the way. -/
theorem exists_issuedBetween (state : BuilderState) (jobs : List Job) :
    ∃ last, state.counters.Before last ∧
      ((runs state jobs).flatMap Run.issued).Perm (issuedBetween state.counters last) := by
  induction jobs generalizing state with
  | nil => exact ⟨state.counters, .refl _, by simp [runs]⟩
  | cons job jobs step =>
      let run : Run := ⟨job, state⟩
      rcases step run.after with ⟨last, further, perm⟩
      refine ⟨last, run.before_after.trans further, ?_⟩
      rw [runs, List.flatMap_cons]
      apply (perm.append_left run.issued).trans
      exact issuedBetween_append run.before_after further

theorem nodup_issued (state : BuilderState) (jobs : List Job) :
    ((runs state jobs).flatMap Run.issued).Nodup := by
  rcases exists_issuedBetween state jobs with ⟨last, _, perm⟩
  exact perm.nodup_iff.mpr nodup_issuedBetween

/-- No two tokens are the same, those of documents that fail included. Where the documents are written
without the brackets of tokens, a finished one has its own tokens and none of another document, and
each stands in it once, or is the token of an image and was lost because a link was read across it. -/
theorem runs_tokens_once (state : BuilderState) {jobs : List Job}
    (calm : ∀ job ∈ jobs, ¬ opening <:+: job.markdown) :
    ((runs state jobs).flatMap Run.issued).Nodup ∧
      ((runs state jobs).Pairwise fun first second => first.Apart second ∧ second.Apart first) ∧
      ∀ run ∈ runs state jobs, ∀ built, run.result = .ok built →
        ((targets built.links built.images).map Target.token).Perm run.issued ∧
        (KeepsApart run.links → ∀ target ∈ targets built.links built.images,
          (target.token.StandsOnce built.markdown ↔
            ∀ link ∈ run.links, ¬ target.token <:+: link.source) ∧
          (target.token.StandsOnce built.markdown ∨
            ¬ target.token <:+: built.markdown ∧ ∃ number, target.token = token .image number)) := by
  have differ := nodup_issued state jobs
  have calmRun {run : Run} (mem : run ∈ runs state jobs) : ¬ opening <:+: run.job.markdown :=
    calm run.job (job_mem_of_mem_runs mem)
  refine ⟨differ, ?_, ?_⟩
  · have disjoint := (List.nodup_flatMap.mp differ).2
    have apart {run other : Run} (mem : run ∈ runs state jobs)
        (distinct : List.Disjoint run.issued other.issued) : run.Apart other := by
      intro keepsApart built builds token issued isInfix
      have own := (run.isInfix_iff builds (calmRun mem) keepsApart (other.isToken issued)).mp isInfix
      exact distinct own.1 issued
    refine disjoint.imp_of_mem ?_
    intro first second firstMem secondMem distinct
    exact ⟨apart firstMem distinct, apart secondMem fun _ mem otherMem => distinct otherMem mem⟩
  · intro run mem built builds
    have perm := run.targets_perm builds
    refine ⟨perm, ?_⟩
    intro keepsApart target targetMem
    have issued : target.token ∈ run.issued := perm.subset (List.mem_map_of_mem targetMem)
    have isToken := run.isToken issued
    have stands := run.isInfix_iff builds (calmRun mem) keepsApart isToken
    rcases run.tells builds (calmRun mem) keepsApart with ⟨put, tells, putPerm⟩
    have once := tells.standsOnce (putPerm.nodup_iff.mpr nodup_issuedBetween) isToken
    by_cases crossed : ∀ link ∈ run.links, ¬ target.token <:+: link.source
    · have standsOnce := once (stands.mpr ⟨issued, crossed⟩)
      exact ⟨⟨fun _ => crossed, fun _ => standsOnce⟩, .inl standsOnce⟩
    · have absent : ¬ target.token <:+: built.markdown := fun isInfix => crossed (stands.mp isInfix).2
      have notOnce : ¬ target.token.StandsOnce built.markdown := by
        rintro ⟨place, only⟩
        exact absent (Text.isInfix_iff.mpr ⟨place, (only place).mpr rfl⟩)
      refine ⟨⟨fun standsOnce => absurd standsOnce notOnce, fun free => absurd free crossed⟩,
        .inr ⟨absent, ?_⟩⟩
      simp only [not_forall, not_not] at crossed
      rcases crossed with ⟨link, linkMem, holds⟩
      exact tells.exists_image isToken linkMem holds

/-- Two documents with an image in the text of a link, and with the same link twice. -/
def pair : List Job :=
  [⟨.bare [], "[![a](http://x.io/p.png)](http://y.io) [b](c.md)".toList, none⟩,
    ⟨.bare [], "[b](http://z.io) and [b](http://z.io)".toList, none⟩]

theorem runs_tokens_once_pair :
    (∀ job ∈ pair, ¬ opening <:+: job.markdown) ∧
      ∀ run ∈ runs .initial pair, ∃ built, run.result = .ok built ∧ KeepsApart run.links ∧
        (targets built.links built.images).isEmpty = false ∧
        ∀ target ∈ targets built.links built.images, target.token.StandsOnce built.markdown := by
  have calm : ∀ job ∈ pair, ¬ opening <:+: job.markdown := by decide +kernel
  have free : ∀ run ∈ runs .initial pair, run.result.toOption.any (fun built =>
      KeepsApart run.links && !(targets built.links built.images).isEmpty &&
        (targets built.links built.images).all fun target =>
          ∀ link ∈ run.links, ¬ target.token <:+: link.source) = true := by
    decide +kernel
  refine ⟨calm, ?_⟩
  intro run mem
  rcases (Option.any_eq_true _ _).mp (free run mem) with ⟨built, found, holds⟩
  simp only [Bool.and_eq_true, decide_eq_true_eq, Bool.not_eq_true', List.all_eq_true] at holds
  rcases holds with ⟨⟨keepsApart, nonempty⟩, uncrossed⟩
  have builds := Except.toOption_eq_some.mp found
  refine ⟨built, builds, keepsApart, nonempty, ?_⟩
  intro target targetMem
  have told := ((runs_tokens_once .initial calm).2.2 run mem built builds).2 keepsApart target targetMem
  exact told.1.mpr (uncrossed target targetMem)

/-- A document with an image in the target of a link. -/
def crossed : Job :=
  ⟨.bare [], "[text](![a](http://x.io/p.png))".toList, none⟩

theorem not_all_tokens_once :
    ¬ ∀ jobs : List Job, (∀ job ∈ jobs, ¬ opening <:+: job.markdown) →
      ∀ run ∈ runs .initial jobs, ∀ built, run.result = .ok built →
        ∀ target ∈ targets built.links built.images, target.token.StandsOnce built.markdown := by
  intro once
  have lost : (Run.mk crossed .initial).result.toOption.any (fun built =>
      (targets built.links built.images).any fun target =>
        ¬ target.token <:+: built.markdown) = true := by
    decide +kernel
  rcases (Option.any_eq_true _ _).mp lost with ⟨built, found, holds⟩
  rcases List.any_eq_true.mp holds with ⟨target, mem, absent⟩
  rw [decide_eq_true_eq] at absent
  rcases once [crossed] (by decide +kernel) _ List.mem_cons_self built
    (Except.toOption_eq_some.mp found) target mem with ⟨place, only⟩
  exact absent (Text.isInfix_iff.mpr ⟨place, (only place).mpr rfl⟩)

end DocBinder.Placeholder
