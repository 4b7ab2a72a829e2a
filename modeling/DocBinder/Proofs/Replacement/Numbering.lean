import DocBinder.Proofs.Replacement.Issue
import Mathlib.Data.List.Nodup
import Mathlib.Data.List.Perm.Basic

/-!
# The tokens between two states

The counters say which tokens were issued between two states of a builder, whether a document was
finished in between or not. While one is built, the tokens that it collects are those.
-/

namespace DocBinder.Placeholder

/-- The tokens that are issued while counters go from one state to another. -/
def issuedBetween (first last : Counters) : List Text :=
  [TokenKind.link, .image, .diagram].flatMap fun kind =>
    (List.range' (first.get kind) (last.get kind - first.get kind)).map (token kind)

namespace Counters

/-- No counter goes back. -/
def Before (first last : Counters) : Prop :=
  ∀ kind, first.get kind ≤ last.get kind

theorem Before.refl (counters : Counters) : counters.Before counters :=
  fun _ => Nat.le_refl _

theorem Before.trans {first middle last : Counters} (before : first.Before middle)
    (behind : middle.Before last) : first.Before last :=
  fun kind => Nat.le_trans (before kind) (behind kind)

theorem before_advance (counters : Counters) (kind : TokenKind) :
    counters.Before (counters.advance kind) :=
  counters.get_le_advance kind

end Counters

variable {first middle last : Counters}

theorem mem_issuedBetween {text : Text} :
    text ∈ issuedBetween first last ↔ ∃ kind, first.Counted last kind text := by
  have all (kind : TokenKind) : kind ∈ [TokenKind.link, .image, .diagram] := by
    cases kind <;> decide
  simp only [issuedBetween, List.mem_flatMap, List.mem_map, List.mem_range'_1, Counters.Counted]
  constructor
  · rintro ⟨kind, _, number, ⟨notBefore, below⟩, rfl⟩
    exact ⟨kind, number, notBefore, by omega, rfl⟩
  · rintro ⟨kind, number, notBefore, below, rfl⟩
    exact ⟨kind, all kind, number, ⟨notBefore, by omega⟩, rfl⟩

theorem nodup_issuedBetween : (issuedBetween first last).Nodup := by
  rw [issuedBetween, List.nodup_flatMap]
  constructor
  · intro kind _
    apply List.Nodup.map
    · intro number other same
      exact (token_inj same).2
    · exact List.nodup_range'
  · have apart (kind other : TokenKind) (differ : kind ≠ other) :
        List.Disjoint ((List.range' (first.get kind) (last.get kind - first.get kind)).map (token kind))
          ((List.range' (first.get other) (last.get other - first.get other)).map (token other)) := by
      intro text mem otherMem
      rcases List.mem_map.mp mem with ⟨_, _, rfl⟩
      rcases List.mem_map.mp otherMem with ⟨_, _, same⟩
      exact differ (token_inj same).1.symm
    apply List.Pairwise.imp (R := (· ≠ ·))
    · exact fun differ => apart _ _ differ
    · decide

@[simp] theorem issuedBetween_self (counters : Counters) : issuedBetween counters counters = [] := by
  simp [issuedBetween]

theorem issuedBetween_advance (counters : Counters) (kind : TokenKind) :
    issuedBetween counters (counters.advance kind) = [token kind (counters.get kind)] := by
  cases kind <;> simp [issuedBetween, Counters.get_advance]

theorem issuedBetween_append (before : first.Before middle) (behind : middle.Before last) :
    (issuedBetween first middle ++ issuedBetween middle last).Perm (issuedBetween first last) := by
  have joined (kind : TokenKind) :
      (List.range' (first.get kind) (middle.get kind - first.get kind)).map (token kind) ++
        (List.range' (middle.get kind) (last.get kind - middle.get kind)).map (token kind) =
      (List.range' (first.get kind) (last.get kind - first.get kind)).map (token kind) := by
    have earlier := before kind
    have later := behind kind
    have starts : middle.get kind = first.get kind + (middle.get kind - first.get kind) := by omega
    have counts : last.get kind - first.get kind =
        middle.get kind - first.get kind + (last.get kind - middle.get kind) := by omega
    rw [counts, ← List.map_append, ← List.range'_append_1, ← starts]
  have perm := List.flatMap_append_perm [TokenKind.link, .image, .diagram]
    (fun kind => (List.range' (first.get kind) (middle.get kind - first.get kind)).map (token kind))
    (fun kind => (List.range' (middle.get kind) (last.get kind - middle.get kind)).map (token kind))
  simp only [joined] at perm
  exact perm

/-! ## Collecting tokens -/

/-- The tokens that a builder at work has collected. -/
def Work.tokens (work : Work) : List Text :=
  work.links.map (·.token) ++ work.images.map (·.token)

/-- From one state to another, a builder at work has collected just the tokens that were issued. -/
structure Work.Adds (put : List Text) (work reached : Work) : Prop where
  goesOn : work.state.counters.Before reached.state.counters
  collected : reached.tokens.Perm (work.tokens ++ put)
  issued : put.Perm (issuedBetween work.state.counters reached.state.counters)

namespace Work.Adds

variable {put own : List Text} {work reached later : Work}

theorem of_same (tokens : reached.tokens = work.tokens)
    (counters : reached.state.counters = work.state.counters) : Adds [] work reached := by
  refine ⟨?_, ?_, ?_⟩
  · rw [counters]
    exact .refl _
  · rw [tokens, List.append_nil]
  · rw [counters, issuedBetween_self]

theorem trans (begins : Adds put work reached) (follows : Adds own reached later) :
    Adds (put ++ own) work later := by
  refine ⟨begins.goesOn.trans follows.goesOn, ?_, ?_⟩
  · rw [← List.append_assoc]
    exact follows.collected.trans (begins.collected.append_right own)
  · apply (begins.issued.append follows.issued).trans
    exact issuedBetween_append begins.goesOn follows.goesOn

end Work.Adds

/-- Where a step gives a result, it fits the tokens that the step has collected. -/
def Build.Gives {α : Type} (fits : α → List Text → Prop) (step : Build α) : Prop :=
  ∀ work, Meets step work (fun result reached => ∃ put, fits result put ∧ work.Adds put reached)
    fun _ _ => True

/-- A step that collects no tokens. -/
abbrev Build.Quiet {α : Type} (step : Build α) : Prop :=
  step.Gives fun _ put => put = []

namespace Build

variable {α β : Type} {fits : α → List Text → Prop} {early : β → List Text → Prop}

namespace Gives

theorem pure {result : α} (fit : fits result []) : Gives fits (pure result : Build α) :=
  fun _ => .pure result ⟨[], fit, .of_same rfl rfl⟩

theorem mono {step : Build α} {others : α → List Text → Prop} (gives : Gives others step)
    (keeps : ∀ result put, others result put → fits result put) : Gives fits step := by
  intro work
  refine (gives work).mono ?_ fun _ _ _ => trivial
  rintro result reached ⟨put, fit, adds⟩
  exact ⟨put, keeps result put fit, adds⟩

theorem bind {first : Build β} {next : β → Build α} (begins : Gives early first)
    (follows : ∀ value own, early value own →
      Gives (fun result put => fits result (own ++ put)) (next value)) :
    Gives fits (first >>= next) := by
  intro work
  refine .bind ((begins work).mono ?_ fun _ _ _ => trivial)
  rintro value reached ⟨own, fit, adds⟩
  refine (follows value own fit reached).mono ?_ fun _ _ _ => trivial
  rintro result later ⟨put, fits, further⟩
  exact ⟨own ++ put, fits, adds.trans further⟩

/-- A token is issued and collected. -/
theorem issue (kind : TokenKind) (collect : Text → Work → Work)
    (collects : ∀ token work, (collect token work).tokens.Perm (work.tokens ++ [token]) ∧
      (collect token work).state.counters = work.state.counters)
    {next : Text → Build α}
    (follows : ∀ number, Gives (fun result put => fits result (token kind number :: put))
      (next (token kind number))) :
    Gives fits (do
      let token ← nextToken kind
      modify (collect token)
      next token) := by
  intro work
  refine .bind (.bind (.get (.bind (.set _ (.pure _ (.bind (.modify _ ?_)))))))
  refine (follows (work.state.counters.get kind) _).mono ?_ fun _ _ _ => trivial
  rintro result reached ⟨put, fit, further⟩
  have issued : Work.Adds [token kind (work.state.counters.get kind)] work
      (collect (token kind (work.state.counters.get kind)) { work with
        state := { work.state with counters := work.state.counters.advance kind } }) := by
    refine ⟨?_, ?_, ?_⟩
    · rw [(collects _ _).2]
      exact Counters.before_advance _ _
    · exact (collects _ _).1
    · rw [(collects _ _).2]
      exact .of_eq (issuedBetween_advance _ _).symm
  exact ⟨_, fit, issued.trans further⟩

end Gives

/-! ## Quiet steps -/

namespace Quiet

theorem pure (value : α) : Quiet (pure value : Build α) :=
  Gives.pure rfl

/-- What follows a quiet step decides what is given. -/
theorem bind {first : Build β} {next : β → Build α} (begins : Quiet first)
    (follows : ∀ value, Gives fits (next value)) : Gives fits (first >>= next) := by
  refine Gives.bind begins ?_
  rintro value own rfl
  exact follows value

theorem modify (change : Work → Work) (same : ∀ work, (change work).tokens = work.tokens ∧
    (change work).state.counters = work.state.counters) :
    Quiet (modify change : Build PUnit) :=
  fun work => .modify _ ⟨[], rfl, .of_same (same work).1 (same work).2⟩

theorem get : Quiet (get : Build Work) :=
  fun _ => .get ⟨[], rfl, .of_same rfl rfl⟩

theorem report (level : Log.Level) (message : String) : Quiet (report level message) :=
  modify _ fun _ => ⟨rfl, rfl⟩

theorem record (event : Event) : Quiet (record event) :=
  modify _ fun _ => ⟨rfl, rfl⟩

theorem count (change : Stats → Stats) : Quiet (count change) :=
  modify _ fun _ => ⟨rfl, rfl⟩

theorem remember (key address : String) : Quiet (remember key address) :=
  modify _ fun _ => ⟨rfl, rfl⟩

theorem ofResult (result : Except Failure α) :
    Quiet (ExceptT.mk (Pure.pure result) : Build α) := by
  intro work
  refine .lift ?_ fun _ _ => trivial
  intro value _
  exact ⟨[], rfl, .of_same rfl rfl⟩

theorem cached (key : String) : Quiet (cached key) :=
  fun _ => .bind (.get (.bind (.set _ (.pure _ ⟨[], rfl, .of_same rfl rfl⟩))))

theorem upload (uploader : Uploader) (path : String) : Quiet (upload uploader path) :=
  bind (record _) fun _ => ofResult _

theorem render (renderer : Renderer) (code language : Text) :
    Quiet (render renderer code language) := by
  refine bind (record _) fun _ => bind get fun work => bind (ofResult _) fun image => ?_
  split
  · exact bind (modify _ fun _ => ⟨rfl, rfl⟩) fun _ => pure image
  · exact pure image

theorem uploadLocal (setup : Setup) (directory : Option String) (source : Text) :
    Quiet (uploadLocal setup directory source) := by
  unfold Placeholder.uploadLocal
  split
  · rename_i uploader start _
    generalize resolvePath setup.files start source = result
    refine bind (ofResult result) fun path => ?_
    split
    · exact bind (report _ _) fun _ => pure none
    · extract_lets key
      clear_value key
      refine bind (cached key) fun found => ?_
      cases found with
      | some address => exact bind (count _) fun _ => pure _
      | none =>
          exact bind (upload uploader path) fun result =>
            bind (remember _ _) fun _ => bind (count _) fun _ => pure _
  · exact bind (report _ _) fun _ => pure none

end Quiet

end Build

end DocBinder.Placeholder
