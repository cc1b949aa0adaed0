/-!
# Actions on a state

Everything that touches files, secrets, terminals or networks is a function on
a state: it may fail, and it leaves a state behind either way.  The state is a
parameter, so that the same rule runs over files on disk, over tables in memory
and over a record of the calls it makes.
-/

set_option autoImplicit false

namespace AccountKeeper

/-- An action on states `σ` that yields an `α` or fails with an `ε`. -/
abbrev ActionE (ε σ α : Type) := ExceptT ε (StateM σ) α

namespace ActionE

variable {ε ε' σ α : Type}

def run (action : ActionE ε σ α) (s : σ) : Except ε α × σ :=
  StateT.run (ExceptT.run action) s

def of (step : σ → Except ε α × σ) : ActionE ε σ α :=
  ExceptT.mk fun s => step s

def lift (step : StateM σ α) : ActionE ε σ α :=
  ExceptT.lift step

def mapError (rename : ε → ε') (action : ActionE ε σ α) : ActionE ε' σ α :=
  of fun s =>
    let (outcome, s') := action.run s
    (outcome.mapError rename, s')

/-- The action as a step that cannot fail; its failure is a value. -/
def outcome (action : ActionE ε σ α) : StateM σ (Except ε α) :=
  action.run

/-- The action within another one; its failure is a value and does not end the other one. -/
def attempt (action : ActionE ε σ α) : ActionE ε' σ (Except ε α) :=
  of fun s =>
    let (outcome, s') := action.run s
    (.ok outcome, s')

/-! ## What actions do to a state -/

@[simp] theorem run_of (step : σ → Except ε α × σ) : (of step).run = step := rfl

@[simp] theorem run_pure (value : α) (s : σ) :
    (pure value : ActionE ε σ α).run s = (.ok value, s) := rfl

@[simp] theorem run_throw (failure : ε) (s : σ) :
    (throw failure : ActionE ε σ α).run s = (.error failure, s) := rfl

@[simp] theorem run_lift (step : StateM σ α) (s : σ) :
    (lift step : ActionE ε σ α).run s = (.ok (step.run s).1, (step.run s).2) := rfl

@[simp] theorem run_mapError (rename : ε → ε') (action : ActionE ε σ α) (s : σ) :
    (action.mapError rename).run s = ((action.run s).1.mapError rename, (action.run s).2) := rfl

@[simp] theorem run_attempt (action : ActionE ε σ α) (s : σ) :
    (action.attempt : ActionE ε' σ (Except ε α)).run s =
      (.ok (action.run s).1, (action.run s).2) := rfl

theorem run_bind {β : Type} (first : ActionE ε σ α) (next : α → ActionE ε σ β) (s : σ) :
    (first >>= next).run s =
      match first.run s with
      | (.ok value, s') => (next value).run s'
      | (.error failure, s') => (.error failure, s') := by
  show (ExceptT.bindCont next (first.run s).1) (first.run s).2 = _
  rcases first.run s with ⟨outcome, s'⟩
  cases outcome <;> rfl

end ActionE

structure Part (σ τ : Type) where
  get : σ → τ
  set : τ → σ → σ

namespace Part

variable {ε σ τ υ α : Type}

def andThen (outer : Part σ τ) (inner : Part τ υ) : Part σ υ where
  get s := inner.get (outer.get s)
  set new s := outer.set (inner.set new (outer.get s)) s

def look {m : Type → Type} [Monad m] [MonadState σ m] (part : Part σ τ) : m τ := do
  return part.get (← MonadState.get)

def assign {m : Type → Type} [MonadState σ m] (part : Part σ τ) (new : τ) : m PUnit :=
  modify (part.set new)

/-- Runs an action on a component; the rest of the state stays as it is. -/
def lift (part : Part σ τ) (action : ActionE ε τ α) : ActionE ε σ α :=
  ActionE.of fun s =>
    let (outcome, t) := action.run (part.get s)
    (outcome, part.set t s)

def liftState (part : Part σ τ) (step : StateM τ α) : StateM σ α := fun s =>
  let (value, t) := step.run (part.get s)
  (value, part.set t s)

/-- What is set is what is read afterwards, and the last setting counts. -/
structure Lawful (part : Part σ τ) : Prop where
  get_set : ∀ (new : τ) (s : σ), part.get (part.set new s) = new
  set_get : ∀ s : σ, part.set (part.get s) s = s
  set_set : ∀ (new old : τ) (s : σ), part.set new (part.set old s) = part.set new s

@[simp] theorem run_lift (part : Part σ τ) (action : ActionE ε τ α) (s : σ) :
    (part.lift action).run s =
      ((action.run (part.get s)).1, part.set (action.run (part.get s)).2 s) := rfl

end Part

end AccountKeeper
