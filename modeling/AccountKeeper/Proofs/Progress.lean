import AccountKeeper.Proofs.Action
import AccountKeeper.Progress

/-!
# How waits end

A wait ends as cancelled exactly if the user cancels before the caller looks
at a finished task; otherwise it ends with what the task yields.  An indicator
is shown and hidden once around the wait.
-/

set_option autoImplicit false

namespace AccountKeeper

namespace Wait

variable {α : Type}

/-- Whether the user cancels before the caller sees that the task has ended. -/
def cancelledDuring : Bool → List Move → Bool
  | _, [] => false
  | _, .userCancels :: _ => true
  | _, .taskEnds :: rest => cancelledDuring true rest
  | ended, .poll :: rest => !ended && cancelledDuring ended rest

theorem run_of_cancelled (finish : TaskEnd α) (ended : Bool) (moves : List Move) :
    run finish ⟨ended, true⟩ moves = .error .cancelled := by
  induction moves generalizing ended with
  | nil => rfl
  | cons move rest ih =>
    cases move with
    | taskEnds => exact ih true
    | userCancels => exact ih ended
    | poll => rfl

/-- A wait that nobody cancels in time ends with what the task yields. -/
theorem run_eq (finish : TaskEnd α) (ended : Bool) (moves : List Move) :
    run finish ⟨ended, false⟩ moves =
      if cancelledDuring ended moves then .error .cancelled else finished finish := by
  induction moves generalizing ended with
  | nil => rfl
  | cons move rest ih =>
    cases move with
    | taskEnds => exact ih true
    | userCancels => exact run_of_cancelled finish ended rest
    | poll =>
      cases ended with
      | false => exact ih false
      | true => rfl

end Wait

theorem Indicator.run_await {σ α : Type} [Journal σ] (indicator : Indicator σ) (title : String)
    (task : StateM σ (BackgroundTask α)) (s shown running watched : σ)
    (started : BackgroundTask α) (moves : List Move)
    (shown_eq : StateT.run (indicator.start title) s = ((), shown))
    (started_eq : StateT.run task shown = (started, running))
    (watched_eq : StateT.run (indicator.moves started.duration) running = (moves, watched)) :
    StateT.run (indicator.await .interactive title task) s =
      if Wait.cancelledDuring false moves then
        (.error .cancelled, Journal.record ⟨.progress, .debug, title ++ " cancelled by user"⟩
          (StateT.run (indicator.stop true) watched).2)
      else (Wait.finished started.finish, (StateT.run (indicator.stop false) watched).2) := by
  have ends := Wait.run_eq started.finish false moves
  unfold await
  simp only [ActionE.run_state_bind, reduceCtorEq, if_false, shown_eq, started_eq, watched_eq]
  cases cancelled : Wait.cancelledDuring false moves with
  | true =>
    have result : Wait.run started.finish {} moves = .error .cancelled := by
      simpa [cancelled] using ends
    rw [result]
    rfl
  | false =>
    have result : Wait.run started.finish {} moves = Wait.finished started.finish := by
      simpa [cancelled] using ends
    rw [result]
    cases started.finish <;> rfl

end AccountKeeper
