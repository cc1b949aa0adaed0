import AccountKeeper.Journal

/-!
# Runs of actions

What the smallest actions do to a state, as equations that a run is computed
with.  Reports only add to the journal.
-/

set_option autoImplicit false

namespace AccountKeeper

theorem bind_eq_ok {ε α β : Type} (first : Except ε α) (next : α → Except ε β) (result : β) :
    (first >>= next) = .ok result ↔ ∃ value, first = .ok value ∧ next value = .ok result := by
  cases first with
  | error e => simp [bind, Except.bind]
  | ok value => simp [bind, Except.bind]

namespace ActionE

variable {ε σ α : Type}

@[simp] theorem run_get (s : σ) : (get : ActionE ε σ σ).run s = (.ok s, s) := rfl

@[simp] theorem run_set (new s : σ) : (set new : ActionE ε σ PUnit).run s = (.ok (), new) := rfl

@[simp] theorem run_ofExcept (outcome : Except ε α) (s : σ) :
    (liftM outcome : ActionE ε σ α).run s = (outcome, s) := rfl

@[simp] theorem run_ofState (step : StateM σ α) (s : σ) :
    (liftM step : ActionE ε σ α).run s = (.ok (step.run s).1, (step.run s).2) := rfl

@[simp] theorem run_outcome (action : ActionE ε σ α) (s : σ) :
    StateT.run action.outcome s = action.run s := rfl

@[simp] theorem mapError_ok {ε' : Type} (rename : ε → ε') (value : α) :
    (Except.ok value : Except ε α).mapError rename = .ok value := rfl

@[simp] theorem mapError_error {ε' : Type} (rename : ε → ε') (failure : ε) :
    (Except.error failure : Except ε α).mapError rename = .error (rename failure) := rfl

theorem mapError_eq_ok {ε' : Type} {outcome : Except ε α} {rename : ε → ε'} {value : α} :
    outcome.mapError rename = .ok value ↔ outcome = .ok value := by
  cases outcome with
  | error failure => simp
  | ok found => simp

@[simp] theorem run_map {β : Type} (change : α → β) (action : ActionE ε σ α) (s : σ) :
    (change <$> action).run s = ((action.run s).1.map change, (action.run s).2) := by
  rw [← bind_pure_comp, run_bind]
  rcases action.run s with ⟨outcome, s'⟩
  cases outcome <;> rfl

theorem run_state_bind {β : Type} (first : StateM σ α) (next : α → StateM σ β) (s : σ) :
    StateT.run (first >>= next) s = StateT.run (next (first.run s).1) (first.run s).2 := rfl

theorem run_state_pure (value : α) (s : σ) :
    StateT.run (pure value : StateM σ α) s = (value, s) := rfl

end ActionE

namespace Journal

variable {σ : Type} [Journal σ]

@[simp] theorem run_note (topic : Topic) (level : Level) (message : String) (s : σ) :
    ActionE.run (note topic level message : Action σ PUnit) s =
      (.ok (), record ⟨topic, level, message⟩ s) := rfl

@[simp] theorem run_debug (topic : Topic) (message : String) (s : σ) :
    ActionE.run (debug topic message : Action σ PUnit) s =
      (.ok (), record ⟨topic, .debug, message⟩ s) := rfl

@[simp] theorem run_state_note (topic : Topic) (level : Level) (message : String) (s : σ) :
    StateT.run (note topic level message : StateM σ PUnit) s =
      ((), record ⟨topic, level, message⟩ s) := rfl

@[simp] theorem run_state_debug (topic : Topic) (message : String) (s : σ) :
    StateT.run (debug topic message : StateM σ PUnit) s =
      ((), record ⟨topic, .debug, message⟩ s) := rfl

end Journal

end AccountKeeper
