import Stencil.Evaluation

/-! Outcomes of steps that are done one after the other, each of which may fail. -/

set_option autoImplicit false

namespace Stencil.Outcome

variable {ε α β : Type} {first : Except ε α} {next : α → Except ε β} {step : α → Except ε β}

theorem bind_eq_ok {result : β} :
    first >>= next = .ok result ↔ ∃ value, first = .ok value ∧ next value = .ok result := by
  cases first <;> simp [bind, Except.bind]

theorem bind_eq_error {error : ε} : first >>= next = .error error ↔
    first = .error error ∨ ∃ value, first = .ok value ∧ next value = .error error := by
  cases first <;> simp [bind, Except.bind]

/-- A step that is done only on a value that is there. -/
theorem of_toOption {outcome : Except ε α} {a : α} (some_ : outcome.toOption = some a) : outcome = .ok a := by
  cases outcome with
  | ok b => exact congrArg _ (Option.some.inj some_)
  | error => cases some_

theorem of_map_error (f : α → β) {outcome : Except ε α} {error : ε} (failed : outcome.map f = .error error) :
    outcome = .error error := by
  cases outcome with
  | ok => cases failed
  | error => exact congrArg _ (Except.error.inj failed)

theorem mapM_eq_ok {option : Option α} {result : Option β} :
    option.mapM step = .ok result ↔ Option.Rel (fun value output => step value = .ok output) option result := by
  constructor
  · intro done
    cases option with
    | none =>
      cases done
      exact .none
    | some value =>
      obtain ⟨output, made, same⟩ := bind_eq_ok.mp done
      cases same
      exact .some made
  · intro related
    cases related with
    | none => rfl
    | some made => exact bind_eq_ok.mpr ⟨_, made, rfl⟩

theorem mapM_eq_error {option : Option α} {error : ε} :
    option.mapM step = .error error ↔ ∃ value, option = some value ∧ step value = .error error := by
  cases option with
  | none => simp [pure, Except.pure]
  | some value =>
    rw [Option.mapM_some]
    cases output : step value <;> simp [Functor.map, Except.map, output]

end Stencil.Outcome

namespace Stencil.Evaluation

variable {α β : Type}

/-- What a computation gives does not depend on the calls that it tells. -/
theorem outcome_bind (x : Evaluation α) (f : α → Evaluation β) :
    (x >>= f).outcome = x.outcome >>= fun a => (f a).outcome := by
  cases given : x.outcome with
  | ok a =>
    rw [bind_ok given]
    rfl
  | error error =>
    rw [bind_error given]
    rfl

theorem map_outcome (f : α → β) (x : Evaluation α) : (f <$> x).outcome = x.outcome.map f := by
  rw [map_eq_pure_bind, outcome_bind]
  cases x.outcome <;> rfl

/-- What goes on with a value only, and cannot fail itself, fails as its start does. -/
theorem return_eq_error {x : Evaluation α} {f : α → β} {error : RenderError} :
    (do return f (← x) : Evaluation β).outcome = .error error ↔ x.outcome = .error error := by
  rw [← map_eq_pure_bind, map_outcome]
  cases x.outcome <;> simp [Except.map]

theorem map_calls (f : α → β) (x : Evaluation α) : (f <$> x).calls = x.calls := by
  rw [map_eq_pure_bind]
  cases given : x.outcome with
  | ok a => rw [bind_ok given, pure_eq, List.append_nil]
  | error error => rw [bind_error given]

theorem orMissing_calls (x : Evaluation α) : x.orMissing.calls = x.calls := by
  rw [orMissing]
  split <;> rfl

theorem outcome_mapM (option : Option α) (step : α → Evaluation β) :
    (option.mapM step).outcome = option.mapM fun a => (step a).outcome := by
  cases option with
  | none => rfl
  | some a =>
    show (step a >>= fun b => pure (some b)).outcome = _
    rw [outcome_bind]
    rfl

end Stencil.Evaluation
