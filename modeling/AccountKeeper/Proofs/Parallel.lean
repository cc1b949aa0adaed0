import AccountKeeper.Proofs.Action

/-!
# Parallel steps

Two steps are parallel if they answer alike and end in related states whenever
they start in related ones.  Statements about two runs are proved with this
notion: there is one lemma for each way of putting steps together.
-/

set_option autoImplicit false

namespace AccountKeeper

variable {ε ε' σ τ υ α β α' β' : Type}

/-- Both outcomes are the same failure, or both are values that match. -/
inductive Matches (values : α → β → Prop) : Except ε α → Except ε β → Prop where
  | error (failure : ε) : Matches values (.error failure) (.error failure)
  | ok {value : α} {other : β} (same : values value other) :
      Matches values (.ok value) (.ok other)

namespace Matches

variable {values : α → β → Prop}

theorem mono {values' : α → β → Prop} {outcome : Except ε α} {other : Except ε β}
    (alike : Matches values outcome other) (weaker : ∀ a b, values a b → values' a b) :
    Matches values' outcome other := by
  cases alike with
  | error failure => exact .error failure
  | ok same => exact .ok (weaker _ _ same)

theorem mapError {outcome : Except ε α} {other : Except ε β}
    (alike : Matches values outcome other) (rename : ε → ε') :
    Matches values (outcome.mapError rename) (other.mapError rename) := by
  cases alike with
  | error failure => exact .error (rename failure)
  | ok same => exact .ok same

theorem refl (outcome : Except ε α) : Matches Eq outcome outcome := by
  cases outcome with
  | error failure => exact .error failure
  | ok value => exact .ok rfl

end Matches

def Parallel (related : σ → τ → Prop) (answers : α → β → Prop) (step : StateM σ α)
    (other : StateM τ β) : Prop :=
  ∀ s t, related s t → answers (StateT.run step s).1 (StateT.run other t).1 ∧
    related (StateT.run step s).2 (StateT.run other t).2

/-- States stay related when both report the same. -/
def Recorded [Journal σ] [Journal τ] (related : σ → τ → Prop) : Prop :=
  ∀ entry s t, related s t → related (Journal.record entry s) (Journal.record entry t)

variable {related : σ → τ → Prop}

namespace Parallel

variable {answers : α → β → Prop}

theorem pure {value : α} {value' : β} (same : answers value value') :
    Parallel related answers (Pure.pure value) (Pure.pure value') := by
  intro s t start
  exact ⟨same, start⟩

theorem bind {answers' : α' → β' → Prop} {first : StateM σ α} {first' : StateM τ β}
    {next : α → StateM σ α'} {next' : β → StateM τ β'}
    (before : Parallel related answers first first')
    (after : ∀ a b, answers a b → Parallel related answers' (next a) (next' b)) :
    Parallel related answers' (first >>= next) (first' >>= next') := by
  intro s t start
  obtain ⟨same, halfway⟩ := before s t start
  exact after _ _ same _ _ halfway

theorem forIn {items : List α} {start : β} {body : α → β → StateM σ (ForInStep β)}
    {body' : α → β → StateM τ (ForInStep β)}
    (each : ∀ item value, Parallel related Eq (body item value) (body' item value)) :
    Parallel related Eq (ForIn.forIn items start body) (ForIn.forIn items start body') := by
  induction items generalizing start with
  | nil => exact .pure rfl
  | cons item rest ih =>
    rw [List.forIn_cons, List.forIn_cons]
    refine .bind (each item start) ?_
    rintro made _ rfl
    cases made with
    | done value => exact .pure rfl
    | yield value => exact ih

theorem note [Journal σ] [Journal τ] (recorded : Recorded related) (topic : Topic)
    (level : Level) (message : String) :
    Parallel related Eq (Journal.note topic level message : StateM σ PUnit)
      (Journal.note topic level message : StateM τ PUnit) := by
  intro s t start
  exact ⟨rfl, recorded _ s t start⟩

theorem debug [Journal σ] [Journal τ] (recorded : Recorded related) (topic : Topic)
    (message : String) :
    Parallel related Eq (Journal.debug topic message : StateM σ PUnit)
      (Journal.debug topic message : StateM τ PUnit) :=
  note recorded topic .debug message

end Parallel

namespace ActionE

variable {answers : α → β → Prop}

def Parallel (related : σ → τ → Prop) (answers : α → β → Prop) (action : ActionE ε σ α)
    (other : ActionE ε τ β) : Prop :=
  ∀ s t, related s t → Matches answers (action.run s).1 (other.run t).1 ∧
    related (action.run s).2 (other.run t).2

namespace Parallel

theorem pure {value : α} {value' : β} (same : answers value value') :
    Parallel related answers (Pure.pure value : ActionE ε σ α) (Pure.pure value') := by
  intro s t start
  exact ⟨.ok same, start⟩

theorem throw (failure : ε) :
    Parallel related answers (MonadExcept.throw failure : ActionE ε σ α)
      (MonadExcept.throw failure : ActionE ε τ β) := by
  intro s t start
  exact ⟨.error failure, start⟩

theorem bind {answers' : α' → β' → Prop} {first : ActionE ε σ α} {first' : ActionE ε τ β}
    {next : α → ActionE ε σ α'} {next' : β → ActionE ε τ β'}
    (before : Parallel related answers first first')
    (after : ∀ a b, answers a b → Parallel related answers' (next a) (next' b)) :
    Parallel related answers' (first >>= next) (first' >>= next') := by
  intro s t start
  obtain ⟨same, halfway⟩ := before s t start
  rw [run_bind, run_bind]
  rcases ran : first.run s with ⟨outcome, s'⟩
  rcases ran' : first'.run t with ⟨outcome', t'⟩
  rw [ran, ran'] at same halfway
  cases same with
  | error failure => exact ⟨.error failure, halfway⟩
  | ok same => exact after _ _ same s' t' halfway

theorem ofExcept {outcome : Except ε α} {outcome' : Except ε β}
    (same : Matches answers outcome outcome') :
    Parallel related answers (liftM outcome : ActionE ε σ α) (liftM outcome' : ActionE ε τ β) := by
  intro s t start
  rw [run_ofExcept, run_ofExcept]
  exact ⟨same, start⟩

theorem ofState {step : StateM σ α} {step' : StateM τ β}
    (parallel : AccountKeeper.Parallel related answers step step') :
    Parallel related answers (liftM step : ActionE ε σ α) (liftM step' : ActionE ε τ β) := by
  intro s t start
  obtain ⟨same, ended⟩ := parallel s t start
  rw [run_ofState, run_ofState]
  exact ⟨.ok same, ended⟩

theorem outcome {action : ActionE ε σ α} {action' : ActionE ε τ β}
    (parallel : Parallel related answers action action') :
    AccountKeeper.Parallel related (Matches answers) action.outcome action'.outcome :=
  parallel

theorem mapError {action : ActionE ε σ α} {action' : ActionE ε τ β}
    (parallel : Parallel related answers action action') (rename : ε → ε') :
    Parallel related answers (action.mapError rename) (action'.mapError rename) := by
  intro s t start
  obtain ⟨same, ended⟩ := parallel s t start
  rw [run_mapError, run_mapError]
  exact ⟨same.mapError rename, ended⟩

theorem note [Journal σ] [Journal τ] (recorded : Recorded related) (topic : Topic)
    (level : Level) (message : String) :
    Parallel related Eq (Journal.note topic level message : Action σ PUnit)
      (Journal.note topic level message : Action τ PUnit) := by
  intro s t start
  exact ⟨.ok rfl, recorded _ s t start⟩

theorem debug [Journal σ] [Journal τ] (recorded : Recorded related) (topic : Topic)
    (message : String) :
    Parallel related Eq (Journal.debug topic message : Action σ PUnit)
      (Journal.debug topic message : Action τ PUnit) :=
  note recorded topic .debug message

end Parallel

end ActionE

end AccountKeeper
