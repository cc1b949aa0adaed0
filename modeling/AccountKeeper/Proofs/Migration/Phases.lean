import AccountKeeper.Proofs.Migration.Decision
import AccountKeeper.Proofs.Migration.Run

/-!
# The phases of a migration

Over any state a migration first asks its collaborators what is to become of a
credential, and then carries out what was decided.  `Migration.decide` is the
first of these phases: it looks up tokens and shows login forms and writes to
no store.  The theorems give each phase as one equation.
-/

set_option autoImplicit false

namespace AccountKeeper

variable {σ : Type} [Journal σ]

/-! ## Lookups -/

/-- What a lookup that nobody cancels comes to. -/
def LookupFailure.ofEnd (server : ServerAddress) :
    TaskEnd (Except LookupFailure String) → Except LookupFailure String
  | .value answer => answer
  | .crashed reason =>
    .error (.unexpectedResponse
      ("Identity lookup on " ++ server.display ++ " did not finish: " ++ reason))

theorem Script.checked_eq (script : Script) (server : ServerAddress) (token : String) :
    script.checked server token =
      if script.cancelsLookup server token then .error .cancelled
      else LookupFailure.ofEnd server (script.lookup server token).finish := by
  unfold checked
  cases (script.lookup server token).finish <;> rfl

/-- A token is checked with one lookup under the indicator; a cancelled one has no other answer. -/
theorem Resolver.run_validate (resolver : Resolver σ) (indicator : Indicator σ)
    (server : ServerAddress) (token : String) (s shown running watched : σ)
    (task : BackgroundTask (Except LookupFailure String)) (moves : List Move)
    (shown_eq : StateT.run (indicator.start validationTitle) s = ((), shown))
    (started_eq : StateT.run (resolver.lookup server token) shown = (task, running))
    (watched_eq : StateT.run (indicator.moves task.duration) running = (moves, watched)) :
    StateT.run (resolver.validate .interactive indicator server token) s =
      if Wait.cancelledDuring false moves then
        (.error .cancelled,
          Journal.record ⟨.progress, .debug, validationTitle ++ " cancelled by user"⟩
            (StateT.run (indicator.stop true) watched).2)
      else
        (LookupFailure.ofEnd server task.finish, (StateT.run (indicator.stop false) watched).2) := by
  have waited := indicator.run_await validationTitle (resolver.lookup server token) s shown running
    watched task moves shown_eq started_eq watched_eq
  unfold validate
  rw [ActionE.run_state_bind, waited]
  cases Wait.cancelledDuring false moves with
  | true => rfl
  | false => cases task.finish <;> rfl

namespace Migration

variable (migration : Migration σ) (interaction : Interaction σ) (s : σ)

theorem run_resolve (indicator : Indicator σ) (host token : String) :
    StateT.run (migration.resolve indicator host token) s =
      match ServerAddress.readHost (some host) with
      | .error failure =>
        (.error (.invalidServer host), Journal.record ⟨.migration, .debug, failure.message⟩ s)
      | .ok server =>
        let checked := StateT.run
          (migration.resolver.validate .interactive indicator server token) s
        (checked.1.map fun login => (login, server), checked.2) := by
  unfold resolve
  cases ServerAddress.readHost (some host) with
  | error failure => rfl
  | ok server => rfl

theorem run_resolve_valid {indicator : Indicator σ} {host token : String} {server : ServerAddress}
    {verdict : Except LookupFailure String} {checked : σ}
    (place : ServerAddress.readHost (some host) = .ok server)
    (check : StateT.run (migration.resolver.validate .interactive indicator server token) s =
      (verdict, checked)) :
    StateT.run (migration.resolve indicator host token) s =
      (verdict.map fun login => (login, server), checked) := by
  rw [run_resolve, place]
  dsimp only
  rw [check]

end Migration

/-! ## Decisions -/

def ConfirmedLogin.decision : Option ConfirmedLogin → Decision
  | some confirmed => .register confirmed.login confirmed.server confirmed.token
  | none => .cancelled

def LoginPrompt.decide (prompt : LoginPrompt σ) (request : LoginRequest) : StateM σ Decision := do
  return ConfirmedLogin.decision (← prompt.request request)

theorem LoginPrompt.run_decide (prompt : LoginPrompt σ) (request : LoginRequest) (s : σ) :
    StateT.run (prompt.decide request) s =
      let asked := StateT.run (prompt.ask request)
        (Journal.record ⟨.reauth, .debug, "Requesting credentials for " ++ request.server⟩ s)
      (ConfirmedLogin.decision asked.1,
        match asked.1 with
        | some confirmed =>
          Journal.record ⟨.reauth, .debug,
            "User confirmed " ++ confirmed.login ++ "@" ++ confirmed.server.display⟩ asked.2
        | none => Journal.record ⟨.reauth, .debug, "User cancelled the login form"⟩ asked.2) := by
  unfold LoginPrompt.decide LoginPrompt.request
  simp only [ActionE.run_state_bind, Journal.run_state_debug]
  cases (StateT.run (prompt.ask request) _).1 <;> rfl

/-- The outcome of a step, once the legacy data is cleared. -/
def MigrationStep.outcome : MigrationStep → MigrationOutcome
  | .registered account => { account := some account, legacyCleared := true }
  | .nothingToMigrate => { legacyCleared := true }
  | .cancelled => { cancelled := true }

theorem MigrationStep.outcome_uncancelled {step : MigrationStep} (uncancelled : step ≠ .cancelled) :
    step.outcome.cancelled = false := by
  cases step with
  | cancelled => exact absurd rfl uncancelled
  | registered account => rfl
  | nothingToMigrate => rfl

namespace Migration

variable (migration : Migration σ) (interaction : Interaction σ) (s : σ)

def decideToken (host token : String) : StateM σ Decision := do
  Journal.debug .migration "Migrating token auth"
  match ← migration.resolve interaction.indicator host token with
  | .ok (login, server) => return .register login server token
  | .error failure =>
    Journal.debug .migration
      ("Failed to migrate legacy token, asking the user: " ++ failure.message)
    interaction.prompt.decide (.afterFailedLookup host token failure)

/-- What is to become of a credential when no account is registered. -/
def decide (legacy : LegacyCredential) : StateM σ Decision :=
  match legacy.authMode, legacy.secret with
  | .token, some token => migration.decideToken interaction legacy.hostOrDefault token
  | .token, none => do
    Journal.debug .migration "Token auth without a stored token, nothing to migrate"
    return .nothingToMigrate
  | .basic, password => do
    Journal.debug .migration "Migrating basic auth"
    interaction.prompt.decide
      (.forPasswordAccount legacy.hostOrDefault legacy.login password)
  | .none, _ => return .nothingToMigrate

theorem run_decideToken (host token : String) :
    StateT.run (migration.decideToken interaction host token) s =
      let resolved := StateT.run (migration.resolve interaction.indicator host token)
        (Journal.record ⟨.migration, .debug, "Migrating token auth"⟩ s)
      match resolved.1 with
      | .ok (login, server) => (.register login server token, resolved.2)
      | .error failure =>
        StateT.run (interaction.prompt.decide (.afterFailedLookup host token failure))
          (Journal.record ⟨.migration, .debug,
            "Failed to migrate legacy token, asking the user: " ++ failure.message⟩
            resolved.2) := by
  unfold decideToken
  simp only [ActionE.run_state_bind, Journal.run_state_debug]
  cases (StateT.run (migration.resolve interaction.indicator host token) _).1 with
  | ok found => rfl
  | error failure => rfl

section Cases

variable {migration interaction s} {host token : String} {resolved : σ}

theorem run_decideToken_ok {login : String} {server : ServerAddress}
    (resolves : StateT.run (migration.resolve interaction.indicator host token)
      (Journal.record ⟨.migration, .debug, "Migrating token auth"⟩ s) =
        (.ok (login, server), resolved)) :
    StateT.run (migration.decideToken interaction host token) s =
      (.register login server token, resolved) := by
  rw [run_decideToken]
  dsimp only
  rw [resolves]

theorem run_decideToken_error {failure : LookupFailure}
    (resolves : StateT.run (migration.resolve interaction.indicator host token)
      (Journal.record ⟨.migration, .debug, "Migrating token auth"⟩ s) =
        (.error failure, resolved)) :
    StateT.run (migration.decideToken interaction host token) s =
      StateT.run (interaction.prompt.decide (.afterFailedLookup host token failure))
        (Journal.record ⟨.migration, .debug,
          "Failed to migrate legacy token, asking the user: " ++ failure.message⟩ resolved) := by
  rw [run_decideToken]
  dsimp only
  rw [resolves]

variable {legacy : LegacyCredential}

theorem run_decide_none (mode : legacy.authMode = .none) :
    StateT.run (migration.decide interaction legacy) s = (.nothingToMigrate, s) := by
  simp only [decide, mode]
  rfl

theorem run_decide_basic (mode : legacy.authMode = .basic) :
    StateT.run (migration.decide interaction legacy) s =
      StateT.run (interaction.prompt.decide
        (.forPasswordAccount legacy.hostOrDefault legacy.login legacy.secret))
        (Journal.record ⟨.migration, .debug, "Migrating basic auth"⟩ s) := by
  simp only [decide, mode]
  rfl

theorem run_decide_no_token (mode : legacy.authMode = .token) (secret : legacy.secret = none) :
    StateT.run (migration.decide interaction legacy) s =
      (.nothingToMigrate, Journal.record
        ⟨.migration, .debug, "Token auth without a stored token, nothing to migrate"⟩ s) := by
  simp only [decide, mode, secret]
  rfl

theorem run_decide_token (mode : legacy.authMode = .token) (secret : legacy.secret = some token) :
    StateT.run (migration.decide interaction legacy) s =
      StateT.run (migration.decideToken interaction legacy.hostOrDefault token) s := by
  simp only [decide, mode, secret]

end Cases

theorem run_registerFromPrompt (prompt : LoginPrompt σ) (request : LoginRequest) :
    (migration.registerFromPrompt prompt request).run s =
      let decided := StateT.run (prompt.decide request) s
      (migration.carryOut decided.1).run decided.2 := by
  unfold registerFromPrompt LoginPrompt.decide
  rw [ActionE.run_bind, ActionE.run_ofState, ActionE.run_state_bind]
  cases (StateT.run (prompt.request request) s).1 with
  | none => rfl
  | some confirmed => rfl

theorem run_migrateToken (host token : String) :
    (migration.migrateToken interaction host token).run s =
      let decided := StateT.run (migration.decideToken interaction host token) s
      (migration.carryOut decided.1).run decided.2 := by
  unfold migrateToken
  rw [ActionE.run_bind, Journal.run_debug]
  dsimp only
  rw [ActionE.run_bind, ActionE.run_lift, run_decideToken]
  dsimp only
  cases (StateT.run (migration.resolve interaction.indicator host token) _).1 with
  | ok found => rfl
  | error failure =>
    dsimp only
    rw [ActionE.run_bind, Journal.run_debug]
    exact migration.run_registerFromPrompt _ interaction.prompt _

theorem run_migrateCredential (legacy : LegacyCredential) :
    (migration.migrateCredential interaction legacy).run s =
      let decided := StateT.run (migration.decide interaction legacy) s
      (migration.carryOut decided.1).run decided.2 := by
  unfold migrateCredential decide
  cases legacy.authMode with
  | token =>
    cases legacy.secret with
    | some token => exact migration.run_migrateToken interaction s legacy.hostOrDefault token
    | none => rfl
  | basic =>
    dsimp only
    rw [ActionE.run_bind, Journal.run_debug]
    exact migration.run_registerFromPrompt _ interaction.prompt _
  | none => rfl

/-! ## Carrying out -/

theorem run_settle (legacy : LegacyCredential) :
    (migration.settle interaction legacy).run s =
      match migration.accounts.list.run s with
      | (.error failure, listed) => (.error failure, listed)
      | (.ok existing, listed) =>
        if existing = [] then
          let decided := StateT.run (migration.decide interaction legacy) listed
          (migration.carryOut decided.1).run decided.2
        else
          (.ok .nothingToMigrate, Journal.record ⟨.migration, .debug,
            Nat.repr existing.length ++
              " account(s) already registered, discarding legacy auth"⟩ listed) := by
  unfold settle
  rw [ActionE.run_bind]
  rcases migration.accounts.list.run s with ⟨answer, listed⟩
  cases answer with
  | error failure => rfl
  | ok existing =>
    dsimp only
    split
    · exact migration.run_migrateCredential interaction listed legacy
    · rfl

theorem run_register (login : String) (server : ServerAddress) (token : String) :
    (migration.register login server token).run s =
      let drawn := StateT.run migration.freshId s
      let account : Account := ⟨drawn.1, login, server⟩
      match (migration.accounts.add account token).run drawn.2 with
      | (.error failure, tried) => (.error failure, tried)
      | (.ok (), added) =>
        (.ok (.registered account), Journal.record
          ⟨.migration, .info, "Registered account " ++ account.display⟩ added) := by
  unfold register
  rw [ActionE.run_bind, ActionE.run_ofState]
  dsimp only
  rw [ActionE.run_bind]
  rcases (migration.accounts.add _ token).run _ with ⟨answer, after⟩
  cases answer with
  | error failure => rfl
  | ok _ => rfl

theorem run_conclude (step : MigrationStep) :
    (migration.conclude step).run s =
      if step = .cancelled then (.ok { cancelled := true }, s)
      else
        ((migration.legacy.clear.run s).1.map fun _ => MigrationStep.outcome step,
          (migration.legacy.clear.run s).2) := by
  cases step with
  | cancelled => rfl
  | registered account =>
    unfold conclude
    rw [ActionE.run_bind, if_neg (by simp)]
    rcases migration.legacy.clear.run s with ⟨answer, cleared⟩
    cases answer <;> rfl
  | nothingToMigrate =>
    unfold conclude
    rw [ActionE.run_bind, if_neg (by simp)]
    rcases migration.legacy.clear.run s with ⟨answer, cleared⟩
    cases answer <;> rfl

end Migration

end AccountKeeper
