import AccountKeeper.Proofs.Action

/-!
# Steps that keep a view

A view of a state is what one wants to know of it, such as its files.  A step
keeps a view if the view is the same before and after, from every state and
whether the step fails or not.  There is one lemma for each way of putting
steps together, so that a proof about a command follows the command.
-/

set_option autoImplicit false

namespace AccountKeeper

variable {ε ε' σ τ α β ω : Type}

def Keeps (view : σ → ω) (step : StateM σ α) : Prop :=
  ∀ s, view (StateT.run step s).2 = view s

/-- Reports are no part of the view. -/
def Unreported [Journal σ] (view : σ → ω) : Prop :=
  ∀ entry s, view (Journal.record entry s) = view s

/-- A part of the state that is no part of the view. -/
def Part.Outside (part : Part σ τ) (view : σ → ω) : Prop :=
  ∀ new s, view (part.set new s) = view s

variable {view : σ → ω}

namespace Keeps

theorem pure (value : α) : Keeps view (Pure.pure value : StateM σ α) := by
  intro s
  rfl

theorem after {first : StateM σ α} {next : α → StateM σ β} {s : σ}
    (before : view (StateT.run first s).2 = view s) (after : ∀ value, Keeps view (next value)) :
    view (StateT.run (first >>= next) s).2 = view s := by
  rw [ActionE.run_state_bind]
  exact (after _ _).trans before

theorem bind {first : StateM σ α} {next : α → StateM σ β} (before : Keeps view first)
    (after : ∀ value, Keeps view (next value)) : Keeps view (first >>= next) := by
  intro s
  exact Keeps.after (before s) after

theorem forIn {items : List α} {start : β} {body : α → β → StateM σ (ForInStep β)}
    (each : ∀ item value, Keeps view (body item value)) :
    Keeps view (ForIn.forIn items start body) := by
  induction items generalizing start with
  | nil => exact .pure start
  | cons item rest ih =>
    rw [List.forIn_cons]
    refine .bind (each item start) fun made => ?_
    cases made with
    | done value => exact .pure value
    | yield value => exact ih

theorem note [Journal σ] (unreported : Unreported view) (topic : Topic) (level : Level)
    (message : String) : Keeps view (Journal.note topic level message : StateM σ PUnit) := by
  intro s
  exact unreported _ s

theorem debug [Journal σ] (unreported : Unreported view) (topic : Topic) (message : String) :
    Keeps view (Journal.debug topic message : StateM σ PUnit) :=
  note unreported topic .debug message

theorem look (part : Part σ τ) : Keeps view (part.look : StateM σ τ) := by
  intro s
  rfl

theorem assign {part : Part σ τ} (outside : part.Outside view) (new : τ) :
    Keeps view (part.assign new : StateM σ PUnit) := by
  intro s
  exact outside new s

theorem liftState {part : Part σ τ} (outside : part.Outside view) (step : StateM τ α) :
    Keeps view (part.liftState step) := by
  intro s
  exact outside _ s

end Keeps

namespace ActionE

def Keeps (view : σ → ω) (action : ActionE ε σ α) : Prop :=
  ∀ s, view (action.run s).2 = view s

/-- A value that an action can end with. -/
def Yields (action : ActionE ε σ α) (value : α) : Prop :=
  ∃ s, (action.run s).1 = .ok value

theorem Yields.of_bind {first : ActionE ε σ α} {next : α → ActionE ε σ β} {value : β}
    (yields : (first >>= next).Yields value) :
    ∃ found, first.Yields found ∧ (next found).Yields value := by
  obtain ⟨s, ends⟩ := yields
  rw [run_bind] at ends
  rcases ran : first.run s with ⟨outcome, s'⟩
  rw [ran] at ends
  cases outcome with
  | error failure => cases ends
  | ok found => exact ⟨found, ⟨s, congrArg Prod.fst ran⟩, s', ends⟩

theorem Yields.of_pure {value found : α} (yields : (pure value : ActionE ε σ α).Yields found) :
    found = value := by
  obtain ⟨s, ends⟩ := yields
  cases ends
  rfl

theorem Yields.of_ofExcept {outcome : Except ε α} {value : α}
    (yields : (liftM outcome : ActionE ε σ α).Yields value) : outcome = .ok value := by
  obtain ⟨s, ends⟩ := yields
  rw [run_ofExcept] at ends
  exact ends

namespace Keeps

theorem pure (value : α) : Keeps view (Pure.pure value : ActionE ε σ α) := by
  intro s
  rfl

theorem throw (failure : ε) : Keeps view (MonadExcept.throw failure : ActionE ε σ α) := by
  intro s
  rfl

/-- What follows has to keep the view for the values that the first action can end with. -/
theorem bind {first : ActionE ε σ α} {next : α → ActionE ε σ β} (before : Keeps view first)
    (after : ∀ value, first.Yields value → Keeps view (next value)) :
    Keeps view (first >>= next) := by
  intro s
  have kept := before s
  rw [run_bind]
  rcases ran : first.run s with ⟨outcome, s'⟩
  rw [ran] at kept
  cases outcome with
  | error failure => exact kept
  | ok value => exact (after value ⟨s, congrArg Prod.fst ran⟩ s').trans kept

theorem ofExcept (outcome : Except ε α) : Keeps view (liftM outcome : ActionE ε σ α) := by
  intro s
  rw [run_ofExcept]

theorem ofState {step : StateM σ α} (keeps : AccountKeeper.Keeps view step) :
    Keeps view (liftM step : ActionE ε σ α) := by
  intro s
  rw [run_ofState]
  exact keeps s

theorem lift {step : StateM σ α} (keeps : AccountKeeper.Keeps view step) :
    Keeps view (ActionE.lift step : ActionE ε σ α) := by
  intro s
  rw [run_lift]
  exact keeps s

theorem mapError {action : ActionE ε σ α} (keeps : Keeps view action) (rename : ε → ε') :
    Keeps view (action.mapError rename) := by
  intro s
  rw [run_mapError]
  exact keeps s

theorem attempt {action : ActionE ε σ α} (keeps : Keeps view action) :
    Keeps view (action.attempt : ActionE ε' σ (Except ε α)) := by
  intro s
  rw [run_attempt]
  exact keeps s

theorem outcome {action : ActionE ε σ α} (keeps : Keeps view action) :
    AccountKeeper.Keeps view action.outcome := by
  intro s
  rw [run_outcome]
  exact keeps s

theorem note [Journal σ] (unreported : Unreported view) (topic : Topic) (level : Level)
    (message : String) : Keeps view (Journal.note topic level message : Action σ PUnit) := by
  intro s
  exact unreported _ s

theorem debug [Journal σ] (unreported : Unreported view) (topic : Topic) (message : String) :
    Keeps view (Journal.debug topic message : Action σ PUnit) :=
  note unreported topic .debug message

theorem look (part : Part σ τ) : Keeps view (part.look : ActionE ε σ τ) := by
  intro s
  rfl

theorem assign {part : Part σ τ} (outside : part.Outside view) (new : τ) :
    Keeps view (part.assign new : ActionE ε σ PUnit) := by
  intro s
  exact outside new s

theorem forIn {items : List α} {start : β} {body : α → β → ActionE ε σ (ForInStep β)}
    (each : ∀ item value, Keeps view (body item value)) :
    Keeps view (ForIn.forIn items start body) := by
  induction items generalizing start with
  | nil => exact .pure start
  | cons item rest ih =>
    rw [List.forIn_cons]
    refine .bind (each item start) fun made _ => ?_
    cases made with
    | done value => exact .pure value
    | yield value => exact ih

end Keeps

end ActionE

end AccountKeeper
