import AccountKeeper.Journal

/-!
# Waiting under a progress indicator

While a task runs in the background, its caller waits and an indicator is
shown on which the user can cancel.  `Wait.run` says how a wait ends for every
order in which the task may end, the user may cancel and the caller may look;
`Indicator.await` waits with an indicator around it.
-/

set_option autoImplicit false

namespace AccountKeeper

inductive TaskEnd (α : Type) where
  | value (result : α)
  | crashed (reason : String)
  deriving DecidableEq, Repr

/-- A task in the background: how it ends, and after how many milliseconds. -/
structure BackgroundTask (α : Type) where
  finish : TaskEnd α
  duration : Nat
  deriving DecidableEq, Repr

inductive Caller where
  /-- The thread that talks to the user and may block. -/
  | interactive
  /-- A task of the asynchronous runtime, which may not. -/
  | runtime
  deriving DecidableEq, Repr

inductive Interrupted where
  | cancelled
  | wrongThread
  | failed (reason : String)
  deriving DecidableEq, Repr

inductive Move where
  | taskEnds
  | userCancels
  | poll
  deriving DecidableEq, Repr

structure Wait where
  ended : Bool := false
  cancelled : Bool := false
  deriving DecidableEq, Repr

namespace Wait

variable {α : Type}

def finished : TaskEnd α → Except Interrupted α
  | .value result => .ok result
  | .crashed reason => .error (.failed reason)

/-- What the caller finds when it looks; a cancellation counts before a result. -/
def poll (wait : Wait) (finish : TaskEnd α) : Option (Except Interrupted α) :=
  if wait.cancelled then some (.error .cancelled)
  else if wait.ended then some (finished finish)
  else none

def step (wait : Wait) : Move → Wait
  | .taskEnds => { wait with ended := true }
  | .userCancels => { wait with cancelled := true }
  | .poll => wait

/-- How a wait ends; after the given moves the task ends and the caller looks. -/
def run (finish : TaskEnd α) (wait : Wait) : List Move → Except Interrupted α
  | [] => if wait.cancelled then .error .cancelled else finished finish
  | move :: rest =>
    match move with
    | .poll =>
      match wait.poll finish with
      | some result => result
      | none => run finish wait rest
    | move => run finish (wait.step move) rest

end Wait

structure Indicator (σ : Type) where
  start : String → StateM σ Unit
  /-- The moves while a task of the given duration runs. -/
  moves : Nat → StateM σ (List Move)
  /-- Hides the indicator; the flag tells whether the user cancelled. -/
  stop : Bool → StateM σ Unit

namespace Indicator

variable {σ : Type}

def silent [Journal σ] : Indicator σ where
  start title := Journal.debug .progress (title ++ "...")
  moves _ := return []
  stop _ := return ()

def on {τ : Type} (part : Part σ τ) (indicator : Indicator τ) : Indicator σ where
  start title := part.liftState (indicator.start title)
  moves duration := part.liftState (indicator.moves duration)
  stop cancelled := part.liftState (indicator.stop cancelled)

/--
Runs a task while the indicator is shown.  A call that may not block neither
shows the indicator nor starts the task.
-/
def await {α : Type} [Journal σ] (indicator : Indicator σ) (caller : Caller) (title : String)
    (task : StateM σ (BackgroundTask α)) : StateM σ (Except Interrupted α) := do
  if caller = .runtime then
    return .error .wrongThread
  indicator.start title
  let started ← task
  let moves ← indicator.moves started.duration
  let result := Wait.run started.finish {} moves
  let cancelled : Bool :=
    match result with
    | .error .cancelled => true
    | _ => false
  indicator.stop cancelled
  if cancelled then
    Journal.debug .progress (title ++ " cancelled by user")
  return result

end Indicator

end AccountKeeper
