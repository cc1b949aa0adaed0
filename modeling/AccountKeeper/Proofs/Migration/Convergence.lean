import AccountKeeper.Proofs.Migration.Attempts

/-!
# Attempts that are repeated

A migration that fails can be run again.  However often it fails, and wherever,
the first run without failures ends as a single such run at the start would
have ended, and at most one account is registered on the way
(`attempts_converge`).  Once a migration is completed, all later runs are quiet.
-/

set_option autoImplicit false

namespace AccountKeeper

structure Attempt where
  script : Script
  caller : Caller

def Attempt.run (attempt : Attempt) (stage : Stage) : Except Failure MigrationOutcome × Stage :=
  (attempt.script.migration.run attempt.caller attempt.script.interaction).run stage

/-- Runs one after the other, each on what the one before it left. -/
def attempts : List Attempt → Stage → Stage
  | [], stage => stage
  | attempt :: later, stage => attempts later (attempt.run stage).2

/-- Later runs ask nobody and write nothing, whoever answers and whatever fails. -/
structure AtRest (stage : Stage) : Prop where
  quiet : ∀ later : List Attempt, ∃ made reports, attempts later stage = stage.noting made reports ∧
    ∀ call ∈ made, call.Quiet
  outcome : ∀ (later : List Attempt) (next : Attempt) (outcome : MigrationOutcome),
    (next.run (attempts later stage)).1 = .ok outcome → outcome = {}
  succeeds : ∀ (later : List Attempt) (script : Script),
    (Attempt.run ⟨script.calm, .interactive⟩ (attempts later stage)).1 = .ok {}

/-- A run at the end of some attempts ends like one that was made at their start. -/
structure Converges (start : Stage) (direct final : Except Failure MigrationOutcome × Stage) :
    Prop where
  /-- Settings and secrets are the same, and so are the accounts with their tokens, up to the
  identifiers of new accounts. -/
  inventory : final.2.holdings.inventory = direct.2.holdings.inventory
  entries : final.2.accounts.entries =
    start.accounts.entries ++ final.2.calls.filterMap MigrationCall.addition?
  once : (final.2.calls.filterMap MigrationCall.addition?).length ≤ 1
  completed : Migration.Completed final.1 ↔ Migration.Completed direct.1
  rest : Migration.Completed final.1 → AtRest final.2

/-! ## What attempts preserve -/

theorem Script.idle_decision (script : Script) (legacy : LegacyCredential)
    (mode : legacy.authMode = .none) : script.decision legacy = .nothingToMigrate := by
  unfold decision
  rw [mode]

/-- A stage that attempts lead to from the start. -/
structure Script.Reached (script : Script) (start stage : Stage) : Prop where
  sound : stage.Sound
  completion : stage.holdings.completion script.decision =
    start.holdings.completion script.decision
  unchanged : start.holdings.completion script.decision = none → stage.holdings = start.holdings
  entries : stage.accounts.entries =
    start.accounts.entries ++ stage.calls.filterMap MigrationCall.addition?
  once : (stage.calls.filterMap MigrationCall.addition?).length ≤ 1

namespace Script

variable {script : Script} {start stage after : Stage}

theorem Reached.of_leads (reached : script.Reached start stage)
    (leads : script.Leads stage after) : script.Reached start after := by
  obtain ⟨made, calls, moves⟩ := leads.moves
  have grown : after.accounts.entries =
      stage.accounts.entries ++ made.filterMap MigrationCall.addition? := moves.entries
  refine ⟨leads.sound reached.sound, ?_, ?_, ?_, ?_⟩
  · rw [moves.completion_eq script.idle_decision, reached.completion]
  · intro incomplete
    rw [moves.eq_of_incomplete (reached.completion.trans incomplete)]
    exact reached.unchanged incomplete
  · rw [grown, reached.entries, calls, List.filterMap_append, List.append_assoc]
  · rw [calls, List.filterMap_append, List.length_append]
    have before := reached.once
    rcases moves.once with nothing | ⟨alone, one⟩
    · rw [nothing]
      exact before
    · -- A second account is out of the question: the first one would still be listed.
      have unadded : stage.calls.filterMap MigrationCall.addition? = [] := by
        have empty : stage.accounts.entries = [] := alone
        rw [reached.entries] at empty
        exact (List.append_eq_nil_iff.mp empty).2
      rw [unadded, one]
      exact Nat.le_refl 1

theorem Reached.attempts (reached : script.Reached start stage) (callers : List Caller) :
    script.Reached start (AccountKeeper.attempts (callers.map (Attempt.mk script)) stage) := by
  induction callers generalizing stage with
  | nil => exact reached
  | cons caller later ih => exact ih (reached.of_leads (script.run_leads stage caller))

theorem reached_opened (script : Script) (settings : LegacySettings) (secrets : SecretTable)
    (entries : List (Account × String)) :
    let start := Stage.opened settings secrets entries
    script.Reached start start :=
  ⟨⟨rfl, rfl⟩, rfl, fun _ => rfl, (List.append_nil _).symm, Nat.zero_le 1⟩

/-! ## After the end -/

theorem attempts_uninformed (later : List Attempt) (stage : Stage)
    (unknown : stage.credential.hasAnyInfo = false) :
    ∃ made reports, AccountKeeper.attempts later stage = stage.noting made reports ∧
      ∀ call ∈ made, call.Quiet := by
  induction later generalizing stage with
  | nil => exact ⟨[], [], stage.noting_nil.symm, by simp⟩
  | cons attempt later ih =>
    obtain ⟨answer, made, reports, ran, quiet, _⟩ :=
      attempt.script.run_uninformed stage attempt.caller unknown
    obtain ⟨others, reports', rest, quiet'⟩ := ih (stage.noting made reports) unknown
    refine ⟨made ++ others, reports ++ reports', ?_, ?_⟩
    · have first : attempt.run stage = (answer, stage.noting made reports) := ran
      rw [AccountKeeper.attempts, first]
      dsimp only
      rw [rest, Stage.noting_noting]
    · intro call member
      rcases List.mem_append.mp member with early | late
      · exact quiet call early
      · exact quiet' call late

theorem atRest_of_uninformed (stage : Stage) (sound : stage.Sound)
    (unknown : stage.credential.hasAnyInfo = false) : AtRest stage where
  quiet later := attempts_uninformed later stage unknown
  outcome := by
    intro later next outcome ended
    obtain ⟨made, reports, same, _⟩ := attempts_uninformed later stage unknown
    obtain ⟨answer, _, _, ran, _, default⟩ :=
      next.script.run_uninformed (stage.noting made reports) next.caller unknown
    rw [same, Attempt.run, ran] at ended
    exact default outcome ended
  succeeds := by
    intro later script
    obtain ⟨made, reports, same, _⟩ := attempts_uninformed later stage unknown
    obtain ⟨_, ran⟩ := script.calm_run (stage.noting made reports) sound.reads
    rw [same, Attempt.run, ran, Stage.credential_noting, unknown]
    rfl

end Script

/-- Whatever fails in any number of attempts, a run without failures at their end leaves what it
would have left at their start, and no second account is registered; once a migration is
completed, every later run is quiet. -/
theorem attempts_converge (script : Script) (settings : LegacySettings) (secrets : SecretTable)
    (entries : List (Account × String)) (callers : List Caller) :
    let start := Stage.opened settings secrets entries
    let calmly := Attempt.mk script.calm .interactive
    Converges start (calmly.run start)
      (calmly.run (attempts (callers.map (Attempt.mk script)) start)) := by
  intro start calmly
  have begun := script.reached_opened settings secrets entries
  have reached := begun.attempts callers
  generalize attempts (callers.map (Attempt.mk script)) start = stage at reached
  have calm := script.calm.run_leads stage .interactive
  have last : script.Reached start (calmly.run stage).2 := reached.of_leads ⟨calm.sound, calm.moves⟩
  have directly := script.calm_completes start begun.sound
  have lastly := script.calm_completes stage reached.sound
  rw [reached.completion] at lastly
  change Migration.EndsAt _ (calmly.run start) _ at directly
  change Migration.EndsAt _ (calmly.run stage) _ at lastly
  cases complete : start.holdings.completion script.decision with
  | none =>
    rw [complete] at directly lastly
    refine ⟨?_, last.entries, last.once, ?_, ?_⟩
    · rw [lastly.2, directly.2, reached.unchanged complete]
    · exact ⟨fun ended => absurd ended lastly.1, fun ended => absurd ended directly.1⟩
    · exact fun ended => absurd ended lastly.1
  | some inventory =>
    rw [complete] at directly lastly
    refine ⟨?_, last.entries, last.once, ?_, ?_⟩
    · rw [lastly.2, directly.2]
    · exact ⟨fun _ => directly.1, fun _ => lastly.1⟩
    · intro _
      have unknown := Holdings.uninformed_of_completion complete
      rw [← lastly.2] at unknown
      exact Script.atRest_of_uninformed _ last.sound unknown

end AccountKeeper
