import AccountKeeper.Proofs.Progress
import AccountKeeper.Terminal
import AccountKeeper.Validator

/-!
# Waits under every schedule

`Wait.Run` holds the orders in which a wait may go: the indicator is shown, the
task is started, the task ends, the user cancels, the caller looks, and the
indicator is hidden.  In all of them a cancellation in time counts more than
the end of the task, and the program ends its waits in the same way
(`Wait.cancellation_wins`).
-/

set_option autoImplicit false

namespace AccountKeeper

namespace Wait

variable {α : Type}

/-! ## Runs -/

inductive Event (α : Type) where
  /-- The indicator is shown. -/
  | begun
  /-- The task is started. -/
  | spawned
  | taskEnded (finish : TaskEnd α)
  | userCancelled
  | polled
  /-- The indicator is hidden. -/
  | hidden

namespace Event

/-- Whether the caller does it, once, in a place of its own. -/
def isCall : Event α → Bool
  | begun => true
  | spawned => true
  | hidden => true
  | taskEnded _ => false
  | userCancelled => false
  | polled => false

def move? : Event α → Option Move
  | taskEnded _ => some .taskEnds
  | userCancelled => some .userCancels
  | polled => some .poll
  | begun => none
  | spawned => none
  | hidden => none

end Event

def movesOf (events : List (Event α)) : List Move :=
  events.filterMap Event.move?

inductive Stage (α : Type) where
  | idle
  | shown
  | waiting
  /-- The wait has ended, but the indicator is still shown. -/
  | leaving (result : Except Interrupted α)
  | past (result : Except Interrupted α)

/-- The calls that have been made when a stage is reached. -/
def Stage.calls : Stage α → List (Event α)
  | idle => []
  | shown => [.begun]
  | waiting => [.begun, .spawned]
  | leaving _ => [.begun, .spawned]
  | past _ => [.begun, .spawned, .hidden]

inductive Stage.HasTask : Stage α → Prop where
  | waiting : HasTask waiting
  | leaving (result : Except Interrupted α) : HasTask (leaving result)
  | past (result : Except Interrupted α) : HasTask (past result)

structure Scene (α : Type) where
  stage : Stage α := .idle
  finish : Option (TaskEnd α) := none
  cancelled : Bool := false

/-- What can happen next.  The user may cancel as soon as the indicator is shown, and the task may
end as soon as it is started, both also when the wait is over. -/
inductive Step : Scene α → Event α → Scene α → Prop where
  | begin {finish cancelled} : Step ⟨.idle, finish, cancelled⟩ .begun ⟨.shown, finish, cancelled⟩
  | spawn {finish cancelled} :
    Step ⟨.shown, finish, cancelled⟩ .spawned ⟨.waiting, finish, cancelled⟩
  | taskEnds {stage cancelled} (finish : TaskEnd α) (started : stage.HasTask) :
    Step ⟨stage, none, cancelled⟩ (.taskEnded finish) ⟨stage, some finish, cancelled⟩
  | cancel {stage finish cancelled} (visible : stage ≠ .idle) :
    Step ⟨stage, finish, cancelled⟩ .userCancelled ⟨stage, finish, true⟩
  /-- The caller looks for a cancellation first. -/
  | pollCancelled {finish} :
    Step ⟨.waiting, finish, true⟩ .polled ⟨.leaving (.error .cancelled), finish, true⟩
  | pollEnded {finish} :
    Step ⟨.waiting, some finish, false⟩ .polled ⟨.leaving (finished finish), some finish, false⟩
  | pollNothing : Step ⟨.waiting, none, false⟩ .polled ⟨.waiting, none, false⟩
  | hide {result finish cancelled} :
    Step ⟨.leaving result, finish, cancelled⟩ .hidden ⟨.past result, finish, cancelled⟩

inductive Run : List (Event α) → Scene α → Prop where
  | start : Run [] {}
  | step {events scene event scene'} (run : Run events scene) (step : Step scene event scene') :
    Run (events ++ [event]) scene'

/-! ## What decides a wait -/

def Settled (moves : List Move) : Prop :=
  .userCancels ∈ moves ∨ .taskEnds ∈ moves

/-- No look at these moves has ended the wait. -/
def Undecided (moves : List Move) : Prop :=
  ∀ earlier, earlier ++ [.poll] <+: moves → ¬Settled earlier

/-- The wait ends in the first look that finds something.  What it finds first is a cancellation,
whether or not the task has ended as well. -/
def Decided (finish : TaskEnd α) (moves : List Move) (result : Except Interrupted α) : Prop :=
  ∃ before, before ++ [.poll] <+: moves ∧ Settled before ∧ Undecided before ∧
    (.userCancels ∈ before → result = .error .cancelled) ∧
    (.userCancels ∉ before → result = finished finish)

theorem Undecided.nil : Undecided [] := by
  intro earlier looked
  simp at looked

theorem Undecided.concat {moves : List Move} (undecided : Undecided moves) {move : Move}
    (nothing : move = .poll → ¬Settled moves) : Undecided (moves ++ [move]) := by
  intro earlier looked
  rcases List.prefix_concat_iff.mp looked with same | inside
  · obtain ⟨rfl, last⟩ := List.append_inj' same rfl
    exact nothing (List.singleton_inj.mp last).symm
  · exact undecided earlier inside

section Decided

variable {finish : TaskEnd α} {moves : List Move} {result result' : Except Interrupted α}

theorem Decided.append (decided : Decided finish moves result) (more : List Move) :
    Decided finish (moves ++ more) result := by
  obtain ⟨before, looked, settled, undecided, wins, otherwise⟩ := decided
  exact ⟨before, looked.trans (List.prefix_append ..), settled, undecided, wins, otherwise⟩

theorem Decided.unique (decided : Decided finish moves result)
    (decided' : Decided finish moves result') : result = result' := by
  obtain ⟨before, looked, settled, undecided, wins, otherwise⟩ := decided
  obtain ⟨before', looked', settled', undecided', wins', otherwise'⟩ := decided'
  have same : before = before' := by
    rcases List.prefix_or_prefix_of_prefix looked looked' with inside | inside
    · rcases List.prefix_concat_iff.mp inside with same | inside
      · exact (List.append_inj' same rfl).1
      · exact absurd settled (undecided' before inside)
    · rcases List.prefix_concat_iff.mp inside with same | inside
      · exact (List.append_inj' same rfl).1.symm
      · exact absurd settled' (undecided before' inside)
  subst same
  by_cases cancelled : .userCancels ∈ before
  · rw [wins cancelled, wins' cancelled]
  · rw [otherwise cancelled, otherwise' cancelled]

end Decided

/-- The moves so far are in the flags of the wait, and no look at them has ended it: then the rest
of the moves decides it. -/
theorem run_decided (finish : TaskEnd α) (before rest : List Move) (undecided : Undecided before) :
    Decided finish (before ++ rest ++ [.taskEnds, .poll])
      (run finish ⟨decide (.taskEnds ∈ before), decide (.userCancels ∈ before)⟩ rest) := by
  induction rest generalizing before with
  | nil =>
    refine ⟨before ++ [.taskEnds], by simp, .inr (by simp), undecided.concat nofun, ?_, ?_⟩
    · intro cancelled
      have inside : .userCancels ∈ before := by simpa using cancelled
      simp [run, inside]
    · intro uncancelled
      have outside : .userCancels ∉ before := by simpa using uncancelled
      simp [run, outside]
  | cons move rest ih =>
    have continued : before ++ move :: rest = before ++ [move] ++ rest := by simp
    cases move with
    | taskEnds =>
      have later := ih (before ++ [.taskEnds]) (undecided.concat nofun)
      rw [continued]
      simpa [run, step] using later
    | userCancels =>
      have later := ih (before ++ [.userCancels]) (undecided.concat nofun)
      rw [continued]
      simpa [run, step] using later
    | poll =>
      by_cases settled : Settled before
      · refine ⟨before, ⟨rest ++ [.taskEnds, .poll], by simp⟩, settled, undecided, ?_, ?_⟩
        · intro cancelled
          simp [run, poll, cancelled]
        · intro uncancelled
          have ended : .taskEnds ∈ before := settled.resolve_left uncancelled
          simp [run, poll, uncancelled, ended]
      · have later := ih (before ++ [.poll]) (undecided.concat fun _ => settled)
        obtain ⟨uncancelled, running⟩ := not_or.mp settled
        rw [continued]
        simpa [run, poll, uncancelled, running] using later

/-! ## What a run tells -/

/-- The task ended in this way, if it ended. -/
def AgreesOn (finish : TaskEnd α) (events : List (Event α)) : Prop :=
  ∀ ending, .taskEnded ending ∈ events → ending = finish

/-- The events have decided the wait exactly if the stage is behind it. -/
def Stage.Fits (events : List (Event α)) : Stage α → Prop
  | idle => Undecided (movesOf events)
  | shown => Undecided (movesOf events)
  | waiting => Undecided (movesOf events)
  | leaving result => ∀ finish, AgreesOn finish events → Decided finish (movesOf events) result
  | past result => ∀ finish, AgreesOn finish events → Decided finish (movesOf events) result

/-- What a scene shows of the events that led to it. -/
structure History (events : List (Event α)) (scene : Scene α) : Prop where
  cancelled : scene.cancelled = true ↔ .userCancels ∈ movesOf events
  ended : .taskEnds ∈ movesOf events → scene.finish.isSome = true
  finish : ∀ finish, scene.finish = some finish → .taskEnded finish ∈ events
  calls : events.filter Event.isCall = scene.stage.calls
  fits : scene.stage.Fits events

theorem AgreesOn.before {finish : TaskEnd α} {events more : List (Event α)}
    (agrees : AgreesOn finish (events ++ more)) : AgreesOn finish events :=
  fun ending member => agrees ending (List.mem_append_left _ member)

section History

variable {events : List (Event α)} {scene : Scene α}

theorem movesOf_concat (events : List (Event α)) (event : Event α) :
    movesOf (events ++ [event]) = movesOf events ++ event.move?.toList := by
  unfold movesOf
  cases moved : event.move? <;> simp [moved]

/-- An event that is no look leaves open or decided what was so before. -/
theorem Stage.Fits.concat {stage : Stage α} (fits : stage.Fits events) {event : Event α}
    (blind : event.move? ≠ some .poll) : stage.Fits (events ++ [event]) := by
  have unfinished (undecided : Undecided (movesOf events)) :
      Undecided (movesOf (events ++ [event])) := by
    rw [movesOf_concat]
    cases moved : event.move? with
    | none => simpa using undecided
    | some move =>
      refine undecided.concat fun isPoll => ?_
      rw [isPoll] at moved
      exact absurd moved blind
  have closed {result : Except Interrupted α}
      (decided : ∀ finish, AgreesOn finish events → Decided finish (movesOf events) result) :
      ∀ finish, AgreesOn finish (events ++ [event]) →
        Decided finish (movesOf (events ++ [event])) result := by
    intro finish agrees
    rw [movesOf_concat]
    exact (decided finish agrees.before).append _
  cases stage with
  | idle => exact unfinished fits
  | shown => exact unfinished fits
  | waiting => exact unfinished fits
  | leaving result => exact closed fits
  | past result => exact closed fits

theorem History.start : History ([] : List (Event α)) {} where
  cancelled := by simp [movesOf]
  ended := by simp [movesOf]
  finish := by simp
  calls := rfl
  fits := Undecided.nil

/-- Each event leaves its mark in the scene. -/
theorem History.step (history : History events scene) {event : Event α} {scene' : Scene α}
    (step : Step scene event scene') : History (events ++ [event]) scene' := by
  obtain ⟨cancelled, ended, known, calls, fits⟩ := history
  have kept (finish : TaskEnd α) (member : .taskEnded finish ∈ events) :
      .taskEnded finish ∈ events ++ [event] := List.mem_append_left _ member
  cases step with
  | begin =>
    refine ⟨?_, ?_, fun finish same => kept finish (known finish same), ?_, ?_⟩
    · simpa [movesOf_concat, Event.move?] using cancelled
    · simpa [movesOf_concat, Event.move?] using ended
    · simp [calls, Stage.calls, Event.isCall]
    · exact Stage.Fits.concat (show Stage.Fits events .shown from fits) nofun
  | spawn =>
    refine ⟨?_, ?_, fun finish same => kept finish (known finish same), ?_, ?_⟩
    · simpa [movesOf_concat, Event.move?] using cancelled
    · simpa [movesOf_concat, Event.move?] using ended
    · simp [calls, Stage.calls, Event.isCall]
    · exact Stage.Fits.concat (show Stage.Fits events .waiting from fits) nofun
  | taskEnds finish started =>
    refine ⟨?_, fun _ => rfl, ?_, ?_, fits.concat nofun⟩
    · simpa [movesOf_concat, Event.move?] using cancelled
    · rintro _ ⟨⟩
      simp
    · simpa [Event.isCall] using calls
  | cancel visible =>
    refine ⟨?_, ?_, fun finish same => kept finish (known finish same), ?_, fits.concat nofun⟩
    · simp [movesOf_concat, Event.move?]
    · simpa [movesOf_concat, Event.move?] using ended
    · simpa [Event.isCall] using calls
  | pollCancelled =>
    refine ⟨?_, ?_, fun finish same => kept finish (known finish same), ?_, ?_⟩
    · simpa [movesOf_concat, Event.move?] using cancelled
    · simpa [movesOf_concat, Event.move?] using ended
    · simpa [Stage.calls, Event.isCall] using calls
    · intro finish agrees
      have inTime : .userCancels ∈ movesOf events := cancelled.mp rfl
      refine ⟨movesOf events, ?_, .inl inTime, fits, fun _ => rfl, fun late => absurd inTime late⟩
      simp [movesOf_concat, Event.move?]
  | @pollEnded finish =>
    refine ⟨?_, fun _ => rfl, fun finish same => kept finish (known finish same), ?_, ?_⟩
    · simpa [movesOf_concat, Event.move?] using cancelled
    · simpa [Stage.calls, Event.isCall] using calls
    · intro finish' agrees
      have uncancelled : .userCancels ∉ movesOf events := fun inTime => nomatch cancelled.mpr inTime
      have mine : .taskEnded finish ∈ events := known finish rfl
      have same : finish = finish' := agrees.before finish mine
      have inTime : .taskEnds ∈ movesOf events :=
        List.mem_filterMap.mpr ⟨.taskEnded finish, mine, rfl⟩
      refine ⟨movesOf events, ?_, .inr inTime, fits, fun inTime => absurd inTime uncancelled, ?_⟩
      · simp [movesOf_concat, Event.move?]
      · exact fun _ => congrArg finished same
  | pollNothing =>
    refine ⟨?_, ?_, fun finish same => kept finish (known finish same), ?_, ?_⟩
    · simpa [movesOf_concat, Event.move?] using cancelled
    · simpa [movesOf_concat, Event.move?] using ended
    · simpa [Event.isCall] using calls
    · have uncancelled : .userCancels ∉ movesOf events := fun inTime => nomatch cancelled.mpr inTime
      have running : .taskEnds ∉ movesOf events := fun inTime => nomatch ended inTime
      have undecided : Undecided (movesOf events ++ [.poll]) :=
        Undecided.concat fits fun _ => not_or.mpr ⟨uncancelled, running⟩
      simpa [Stage.Fits, movesOf_concat, Event.move?] using undecided
  | hide =>
    refine ⟨?_, ?_, fun finish same => kept finish (known finish same), ?_, ?_⟩
    · simpa [movesOf_concat, Event.move?] using cancelled
    · simpa [movesOf_concat, Event.move?] using ended
    · simp [calls, Stage.calls, Event.isCall]
    · exact Stage.Fits.concat (show Stage.Fits events (.past _) from fits) nofun

theorem Run.history (run : Run events scene) : History events scene := by
  induction run with
  | start => exact .start
  | step run step ih => exact ih.step step

end History

end Wait

/-! ## Waits of the program -/

namespace Indicator

variable {σ α : Type} (indicator : Indicator σ) (title : String)

/-- The part of a wait before its end: the indicator is shown, the task is started, and the moves
are awaited. -/
def launch (task : StateM σ (BackgroundTask α)) : StateM σ (TaskEnd α × List Move) := do
  indicator.start title
  let started ← task
  let moves ← indicator.moves started.duration
  return (started.finish, moves)

/-- The part of a wait after its end: the indicator is hidden. -/
def leave [Journal σ] : Except Interrupted α → StateM σ Unit
  | .error .cancelled => do
    indicator.stop true
    Journal.debug .progress (title ++ " cancelled by user")
  | _ => indicator.stop false

/-- A wait of the thread that may block launches its task once and leaves once. -/
theorem run_await_eq [Journal σ] (task : StateM σ (BackgroundTask α)) (s : σ) :
    let launched := StateT.run (indicator.launch title task) s
    let result := Wait.run launched.1.1 {} launched.1.2
    StateT.run (indicator.await .interactive title task) s =
      (result, (StateT.run (indicator.leave title result) launched.2).2) := by
  intro launched result
  unfold await
  simp only [ActionE.run_state_bind, reduceCtorEq, if_false]
  change StateT.run (do
    indicator.stop (match result with
      | .error .cancelled => true
      | _ => false)
    if (match result with
      | .error .cancelled => true
      | _ => false) = true then
      Journal.debug .progress (title ++ " cancelled by user")
    return result) launched.2 = _
  rcases result with failure | value
  · cases failure <;> rfl
  · rfl

end Indicator

/-- What a check of a token says about the wait for its answer. -/
structure LookupFailure.Reports (waited : Except Interrupted (Except LookupFailure String))
    (checked : Except LookupFailure String) : Prop where
  cancelled : waited = .error .cancelled → checked = .error .cancelled
  answered : ∀ answer, waited = .ok answer → checked = answer
  failed : ∀ reason, waited = .error (.failed reason) →
    ∃ text, checked = .error (.unexpectedResponse text)

theorem LookupFailure.reports_ofWait (server : ServerAddress)
    (waited : Except Interrupted (Except LookupFailure String)) :
    Reports waited (ofWait server waited) where
  cancelled cancelled := by rw [cancelled]; rfl
  answered answer answered := by rw [answered]; rfl
  failed reason failed := by rw [failed]; exact ⟨_, rfl⟩

namespace Wait

/-- How waits end.  Whatever the moves of a wait are, the first look that finds something decides
it: a cancellation before this look makes it cancelled, or else it ends with what the task yields.
Every run makes its three calls once and in order and ends like the wait of the program with the
same moves.  A caller that may not wait changes nothing, and a check of a token reports what
became of its wait. -/
theorem cancellation_wins {σ α : Type} [Journal σ] (indicator : Indicator σ) (title : String)
    (task : StateM σ (BackgroundTask α)) (s : σ) :
    let launched := StateT.run (indicator.launch title task) s
    let waited := StateT.run (indicator.await .interactive title task) s
    (Decided launched.1.1 (launched.1.2 ++ [.taskEnds, .poll]) waited.1 ∧
      waited.2 = (StateT.run (indicator.leave title waited.1) launched.2).2) ∧
    (∀ (events : List (Event α)) (scene : Scene α) (result : Except Interrupted α),
      Run events scene → scene.stage = .past result →
        events.filter Event.isCall = [.begun, .spawned, .hidden] ∧
        (∀ finish, AgreesOn finish events → Decided finish (movesOf events) result) ∧
        (AgreesOn launched.1.1 events → movesOf events = launched.1.2 → waited.1 = result)) ∧
    StateT.run (indicator.await .runtime title task) s = (.error .wrongThread, s) ∧
    ∀ (caller : Caller) (resolver : Resolver σ) (server : ServerAddress) (token : String),
      let asked := StateT.run
        (indicator.await caller validationTitle (resolver.lookup server token)) s
      let checked := StateT.run (resolver.validate caller indicator server token) s
      LookupFailure.Reports asked.1 checked.1 ∧ checked.2 = asked.2 := by
  intro launched waited
  have ran := indicator.run_await_eq title task s
  have decided : Decided launched.1.1 (launched.1.2 ++ [.taskEnds, .poll]) waited.1 := by
    have decided := run_decided launched.1.1 [] launched.1.2 .nil
    rw [show waited.1 = _ from congrArg Prod.fst ran]
    simpa using decided
  refine ⟨⟨decided, ?_⟩, ?_, rfl, ?_⟩
  · rw [show waited = _ from ran]
  · intro events scene result run ended
    have history := run.history
    have calls := history.calls
    have fits := history.fits
    rw [ended] at calls fits
    refine ⟨calls, fits, fun agrees same => ?_⟩
    have early := fits launched.1.1 agrees
    rw [same] at early
    exact decided.unique (early.append _)
  · intro caller resolver server token asked checked
    exact ⟨LookupFailure.reports_ofWait server asked.1, rfl⟩

/-- An indicator that shows nothing, with given moves. -/
def following (moves : List Move) : Indicator Terminal where
  start _ := return ()
  moves _ := return moves
  stop _ := return ()

/-- The task is done when the user cancels, and the caller looks after that. -/
theorem cancellation_wins_over_result :
    (StateT.run (Indicator.await (following [.taskEnds, .userCancels, .poll]) .interactive
      "Working" (return ⟨.value 42, 0⟩)) ({} : Terminal)).1 =
        (.error .cancelled : Except Interrupted Nat) := by
  have run : Run [.begun, .spawned, .taskEnded (.value 42), .userCancelled, .polled, .hidden]
      ⟨.past (.error .cancelled), some (.value 42), true⟩ :=
    (((((Run.start.step .begin).step .spawn).step (.taskEnds (.value 42) .waiting)).step
      (.cancel nofun)).step .pollCancelled).step .hide
  obtain ⟨-, runs, -⟩ := cancellation_wins (following [.taskEnds, .userCancels, .poll]) "Working"
    (return ⟨.value 42, 0⟩) ({} : Terminal)
  obtain ⟨-, -, ends⟩ := runs _ _ _ run rfl
  refine ends ?_ rfl
  intro ending member
  have same : ending = .value 42 := by simpa using member
  exact same

end Wait

end AccountKeeper
