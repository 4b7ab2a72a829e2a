import DocBinder.Failure
import Mathlib.Data.List.Basic

/-!
# What steps reach

Placeholders are built, documents written and commands run by steps over a state that may fail and
keep the state they have reached. Everything that is said about them has one form: from a state, a
step either gives a value or fails, and what holds of the value or the failure and of the state
reached. The conditions are carried backwards through a step, part by part, so that a proof follows
the text of the step.
-/

namespace DocBinder

theorem Except.exists_of_bind_eq_ok {ε α β : Type} {first : Except ε α} {next : α → Except ε β}
    {result : β} (bound : first >>= next = .ok result) :
    ∃ value, first = .ok value ∧ next value = .ok result := by
  cases first with
  | error fault => cases bound
  | ok value => exact ⟨value, rfl, bound⟩

theorem Except.toOption_eq_some {ε α : Type} {result : Except ε α} {value : α} :
    result.toOption = some value ↔ result = .ok value := by
  cases result <;> simp [Except.toOption]

theorem Except.exists_of_map_eq_ok {ε α β : Type} {first : Except ε α} {change : α → β} {result : β}
    (mapped : first.map change = .ok result) : ∃ value, first = .ok value ∧ change value = result := by
  cases first with
  | error fault => cases mapped
  | ok value => exact ⟨value, rfl, Except.ok.inj mapped⟩

/-- A handler goes on from the state that a failure has left. -/
theorem run_tryCatch {σ α : Type} (step : ExceptT Failure (StateM σ) α)
    (handler : Failure → ExceptT Failure (StateM σ) α) (state : σ) :
    (tryCatch step handler).run state =
      match step.run state with
      | (.ok value, reached) => (.ok value, reached)
      | (.error failure, reached) => (handler failure).run reached := by
  simp only [tryCatch, tryCatchThe, MonadExceptOf.tryCatch, ExceptT.tryCatch, ExceptT.mk,
    ExceptT.run, Bind.bind, StateT.bind]
  rcases step state with ⟨_ | _, _⟩ <;> rfl

/-- From a state, a step gives a value for which `returns` holds with the state reached, or fails
such that `fails` does. -/
def Meets {σ α : Type} (step : ExceptT Failure (StateM σ) α) (state : σ)
    (returns : α → σ → Prop) (fails : Failure → σ → Prop) : Prop :=
  match step.run state with
  | (.ok value, reached) => returns value reached
  | (.error failure, reached) => fails failure reached

/-- No failure is possible. -/
def never {σ : Type} : Failure → σ → Prop :=
  fun _ _ => False

namespace Meets

variable {σ α β : Type} {state : σ} {returns : α → σ → Prop} {fails : Failure → σ → Prop}

theorem of_run {step : ExceptT Failure (StateM σ) α} {value : α} {reached : σ}
    (runs : step.run state = (.ok value, reached)) (holds : returns value reached) :
    Meets step state returns fails := by
  rw [Meets, runs]
  exact holds

theorem of_run_error {step : ExceptT Failure (StateM σ) α} {failure : Failure} {reached : σ}
    (runs : step.run state = (.error failure, reached)) (holds : fails failure reached) :
    Meets step state returns fails := by
  rw [Meets, runs]
  exact holds

/-- A step that cannot fail gives a value. -/
theorem exists_run {step : ExceptT Failure (StateM σ) α} (meets : Meets step state returns never) :
    ∃ value reached, step.run state = (.ok value, reached) ∧ returns value reached := by
  rw [Meets] at meets
  split at meets
  · rename_i value reached runs
    exact ⟨value, reached, runs, meets⟩
  · exact meets.elim

/-- Every step meets how it runs. -/
theorem self (step : ExceptT Failure (StateM σ) α) (state : σ) :
    Meets step state (fun value reached => step.run state = (.ok value, reached))
      (fun failure reached => step.run state = (.error failure, reached)) := by
  rw [Meets]
  split <;> assumption

/-- What a step meets, it meets by how it runs. -/
theorem run {step : ExceptT Failure (StateM σ) α} (meets : Meets step state returns fails) :
    Meets step state
      (fun value reached => step.run state = (.ok value, reached) ∧ returns value reached)
      (fun failure reached =>
        step.run state = (.error failure, reached) ∧ fails failure reached) := by
  rw [Meets] at meets ⊢
  split at meets <;> rename_i runs
  · rw [runs]
    exact ⟨rfl, meets⟩
  · rw [runs]
    exact ⟨rfl, meets⟩

theorem pure (value : α) (holds : returns value state) :
    Meets (pure value) state returns fails :=
  holds

/-- A part is followed by what comes of its value. -/
theorem bind {first : ExceptT Failure (StateM σ) β} {next : β → ExceptT Failure (StateM σ) α}
    (meets : Meets first state (fun value reached => Meets (next value) reached returns fails)
      fails) :
    Meets (first >>= next) state returns fails := by
  have runs : (first >>= next).run state =
      match first.run state with
      | (.ok value, reached) => (next value).run reached
      | (.error failure, reached) => (.error failure, reached) := by
    change ExceptT.bindCont next (first.run state).1 (first.run state).2 = _
    rcases first.run state with ⟨_ | _, _⟩ <;> rfl
  rw [Meets] at meets ⊢
  rw [runs]
  split at meets <;> exact meets

theorem mono {step : ExceptT Failure (StateM σ) α} {stronger : α → σ → Prop}
    {worse : Failure → σ → Prop} (meets : Meets step state stronger worse)
    (keeps : ∀ value reached, stronger value reached → returns value reached)
    (keepsFailure : ∀ failure reached, worse failure reached → fails failure reached) :
    Meets step state returns fails := by
  rw [Meets] at meets ⊢
  split at meets
  · exact keeps _ _ meets
  · exact keepsFailure _ _ meets

/-- A step meets both of two conditions. -/
theorem and {step : ExceptT Failure (StateM σ) α} {others : α → σ → Prop}
    {worse : Failure → σ → Prop} (meets : Meets step state returns fails)
    (also : Meets step state others worse) :
    Meets step state (fun value reached => returns value reached ∧ others value reached)
      (fun failure reached => fails failure reached ∧ worse failure reached) := by
  rw [Meets] at meets also ⊢
  split at meets <;> rename_i runs <;>
  · rw [runs] at also
    exact ⟨meets, also⟩

/-- The state that a step reaches, whether it fails or not. -/
theorem reached {step : ExceptT Failure (StateM σ) α}
    (holds : σ → Prop) (meets : Meets step state (fun _ => holds) (fun _ => holds)) :
    holds (step.run state).2 := by
  rw [Meets] at meets
  split at meets <;> rename_i runs
  · rw [runs]
    exact meets
  · rw [runs]
    exact meets

/-- A step that cannot fail meets any condition on failures. -/
theorem total {step : ExceptT Failure (StateM σ) α} (meets : Meets step state returns never) :
    Meets step state returns fails :=
  meets.mono (fun _ _ holds => holds) fun _ _ impossible => impossible.elim

theorem throw (failure : Failure) (holds : fails failure state) :
    Meets (throw failure) state returns fails :=
  holds

/-- A result that is known already. -/
theorem lift {result : Except Failure α}
    (gives : ∀ value, result = .ok value → returns value state)
    (refuses : ∀ failure, result = .error failure → fails failure state) :
    Meets (ExceptT.mk (Pure.pure result)) state returns fails := by
  cases result with
  | ok value => exact gives value rfl
  | error failure => exact refuses failure rfl

theorem get {next : σ → σ → Prop} (holds : next state state) :
    Meets (get : ExceptT Failure (StateM σ) σ) state next fails :=
  holds

theorem set {next : PUnit → σ → Prop} (changed : σ) (holds : next ⟨⟩ changed) :
    Meets (set changed : ExceptT Failure (StateM σ) PUnit) state next fails :=
  holds

theorem modify {next : PUnit → σ → Prop} (change : σ → σ) (holds : next ⟨⟩ (change state)) :
    Meets (modify change : ExceptT Failure (StateM σ) PUnit) state next fails :=
  holds

/-- A failure is handed on to its handler. -/
theorem tryCatch {step : ExceptT Failure (StateM σ) α}
    {handler : Failure → ExceptT Failure (StateM σ) α}
    (meets : Meets step state returns
      (fun failure reached => Meets (handler failure) reached returns fails)) :
    Meets (tryCatch step handler) state returns fails := by
  rw [Meets] at meets ⊢
  rw [run_tryCatch]
  split at meets <;> exact meets

end Meets

-- What a step meets is never to be found out by running it.
attribute [irreducible] Meets

end DocBinder
