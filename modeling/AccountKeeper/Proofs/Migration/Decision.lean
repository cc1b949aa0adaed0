import AccountKeeper.Proofs.Migration.Rehearsal

/-!
# What a migration decides

A legacy credential amounts to one of three decisions: there is nothing to
migrate, the user cancels, or a login on a server is registered with a token.
`Script.decision` says which one, `Script.dealings` lists the lookups and login
forms on the way to it, and `run_migrateCredential` says that a migration makes
exactly these calls and then carries out the decision.
-/

set_option autoImplicit false

namespace AccountKeeper

/-- What is to become of a legacy credential when no account is registered. -/
inductive Decision where
  | nothingToMigrate
  | cancelled
  | register (login : String) (server : ServerAddress) (token : String)
  deriving DecidableEq, Repr

def Migration.carryOut {σ : Type} [Journal σ] (migration : Migration σ) :
    Decision → Action σ MigrationStep
  | .nothingToMigrate => return .nothingToMigrate
  | .cancelled => return .cancelled
  | .register login server token => migration.register login server token

namespace Script

/-! ## Lookups -/

/-- Whether the user cancels the lookup of a token. -/
def cancelsLookup (script : Script) (server : ServerAddress) (token : String) : Bool :=
  Wait.cancelledDuring false (script.moves (script.lookup server token).duration)

/-- The login behind a token on a server; a cancelled lookup has no other answer. -/
def checked (script : Script) (server : ServerAddress) (token : String) :
    Except LookupFailure String :=
  if script.cancelsLookup server token then .error .cancelled
  else
    match (script.lookup server token).finish with
    | .value answer => answer
    | .crashed reason =>
      .error (.unexpectedResponse
        ("Identity lookup on " ++ server.display ++ " did not finish: " ++ reason))

def verdict (script : Script) (host token : String) :
    Except LookupFailure (String × ServerAddress) :=
  match ServerAddress.readHost (some host) with
  | .error _ => .error (.invalidServer host)
  | .ok server => (script.checked server token).map fun login => (login, server)

def lookupCalls (script : Script) (host token : String) : List MigrationCall :=
  match ServerAddress.readHost (some host) with
  | .error _ => []
  | .ok server =>
    [.showIndicator validationTitle, .lookUp server token (script.lookup server token),
      .hideIndicator (script.cancelsLookup server token)]

def lookupReports (script : Script) (host token : String) : List JournalEntry :=
  match ServerAddress.readHost (some host) with
  | .error failure => [⟨.migration, .debug, failure.message⟩]
  | .ok server =>
    if script.cancelsLookup server token then
      [⟨.progress, .debug, validationTitle ++ " cancelled by user"⟩]
    else []

theorem run_validate (script : Script) (stage : Stage) (server : ServerAddress)
    (token : String) :
    StateT.run (script.resolver.validate .interactive script.indicator server token) stage =
      (script.checked server token,
        stage.noting
          [.showIndicator validationTitle, .lookUp server token (script.lookup server token),
            .hideIndicator (script.cancelsLookup server token)]
          (if script.cancelsLookup server token then
            [⟨.progress, .debug, validationTitle ++ " cancelled by user"⟩] else [])) := by
  have waited := Indicator.run_await script.indicator validationTitle
    (script.resolver.lookup server token) stage _ _ _ (script.lookup server token)
    (script.moves (script.lookup server token).duration) rfl rfl rfl
  unfold Resolver.validate checked cancelsLookup
  rw [ActionE.run_state_bind, waited]
  cases Wait.cancelledDuring false (script.moves (script.lookup server token).duration) with
  | true =>
    simp [indicator, LookupFailure.ofWait]
    rfl
  | false =>
    cases (script.lookup server token).finish <;>
      simp [indicator, Wait.finished, LookupFailure.ofWait] <;> rfl

theorem run_resolve (script : Script) (stage : Stage) (host token : String) :
    StateT.run (script.migration.resolve script.indicator host token) stage =
      (script.verdict host token,
        stage.noting (script.lookupCalls host token) (script.lookupReports host token)) := by
  unfold Migration.resolve verdict lookupCalls lookupReports
  cases ServerAddress.readHost (some host) with
  | error failure =>
    simp
    rfl
  | ok server =>
    have validated := script.run_validate stage server token
    rw [ActionE.run_state_bind]
    change StateT.run _ (StateT.run (script.resolver.validate _ _ _ _) stage).2 = _
    rw [validated]
    change (Except.map _ (StateT.run (script.resolver.validate _ _ _ _) stage).1, _) = _
    rw [validated]

/-! ## Registrations -/

def newAccount (script : Script) (stage : Stage) (login : String) (server : ServerAddress) :
    Account :=
  ⟨script.newId stage.draws, login, server⟩

theorem run_register (script : Script) (stage : Stage) (login : String) (server : ServerAddress)
    (token : String) :
    (script.migration.register login server token).run stage =
      let account := script.newAccount stage login server
      match script.addition stage.drawn account token with
      | .ok accounts =>
        (.ok (.registered account),
          (stage.drawn.holding accounts).noting [.addAccount account token (.ok ())]
            [⟨.migration, .info, "Registered account " ++ account.display⟩])
      | .error failure =>
        (.error failure, stage.drawn.noting [.addAccount account token (.error failure)] []) := by
  unfold Migration.register newAccount
  simp only [ActionE.run_bind, ActionE.run_ofState]
  rw [show script.migration.freshId = script.freshId from rfl, run_freshId]
  rw [show script.migration.accounts = script.accounts from rfl, run_add]
  cases script.addition stage.drawn ⟨script.newId stage.draws, login, server⟩ token with
  | ok accounts => simp
  | error failure => rfl

/-! ## Login forms -/

def confirmation (script : Script) (request : LoginRequest) : Decision :=
  match script.answer request with
  | some confirmed => .register confirmed.login confirmed.server confirmed.token
  | none => .cancelled

def formReports (script : Script) (request : LoginRequest) : List JournalEntry :=
  [⟨.reauth, .debug, "Requesting credentials for " ++ request.server⟩,
    match script.answer request with
    | some confirmed =>
      ⟨.reauth, .debug, "User confirmed " ++ confirmed.login ++ "@" ++ confirmed.server.display⟩
    | none => ⟨.reauth, .debug, "User cancelled the login form"⟩]

theorem run_registerFromPrompt (script : Script) (stage : Stage) (request : LoginRequest) :
    (script.migration.registerFromPrompt script.prompt request).run stage =
      (script.migration.carryOut (script.confirmation request)).run
        (stage.noting [.ask request (script.answer request)] (script.formReports request)) := by
  unfold Migration.registerFromPrompt LoginPrompt.request confirmation formReports
  simp only [ActionE.run_bind, ActionE.run_ofState, ActionE.run_state_bind, run_ask,
    Journal.run_state_debug, Stage.record_eq, Stage.noting_noting]
  cases script.answer request with
  | none =>
    simp
    rfl
  | some confirmed =>
    simp
    rfl

/-! ## Credentials -/

/-- The login form that is shown for a credential, if one is shown. -/
def form? (script : Script) (legacy : LegacyCredential) : Option LoginRequest :=
  match legacy.authMode, legacy.secret with
  | .token, some token =>
    match script.verdict legacy.hostOrDefault token with
    | .ok _ => none
    | .error failure => some (.afterFailedLookup legacy.hostOrDefault token failure)
  | .basic, password =>
    some (.forPasswordAccount legacy.hostOrDefault legacy.login password)
  | _, _ => none

def lookups (script : Script) (legacy : LegacyCredential) : List MigrationCall :=
  match legacy.authMode, legacy.secret with
  | .token, some token => script.lookupCalls legacy.hostOrDefault token
  | _, _ => []

/-- The lookups and login forms for a credential, in their order. -/
def dealings (script : Script) (legacy : LegacyCredential) : List MigrationCall :=
  script.lookups legacy ++
    (script.form? legacy).toList.map fun request => .ask request (script.answer request)

/-- What is decided about a credential. -/
def decision (script : Script) (legacy : LegacyCredential) : Decision :=
  match legacy.authMode, legacy.secret with
  | .token, some token =>
    match script.verdict legacy.hostOrDefault token with
    | .ok (login, server) => .register login server token
    | .error failure =>
      script.confirmation (.afterFailedLookup legacy.hostOrDefault token failure)
  | .basic, password =>
    script.confirmation (.forPasswordAccount legacy.hostOrDefault legacy.login password)
  | _, _ => .nothingToMigrate

def reports (script : Script) (legacy : LegacyCredential) : List JournalEntry :=
  match legacy.authMode, legacy.secret with
  | .token, some token =>
    ⟨.migration, .debug, "Migrating token auth"⟩ ::
      script.lookupReports legacy.hostOrDefault token ++
      match script.verdict legacy.hostOrDefault token with
      | .ok _ => []
      | .error failure =>
        ⟨.migration, .debug,
          "Failed to migrate legacy token, asking the user: " ++ failure.message⟩ ::
        script.formReports (.afterFailedLookup legacy.hostOrDefault token failure)
  | .token, none =>
    [⟨.migration, .debug, "Token auth without a stored token, nothing to migrate"⟩]
  | .basic, password =>
    ⟨.migration, .debug, "Migrating basic auth"⟩ ::
      script.formReports (.forPasswordAccount legacy.hostOrDefault legacy.login password)
  | .none, _ => []

theorem run_migrateToken (script : Script) (stage : Stage) (legacy : LegacyCredential)
    (token : String) (mode : legacy.authMode = .token) (secret : legacy.secret = some token) :
    (script.migration.migrateToken script.interaction legacy.hostOrDefault token).run stage =
      (script.migration.carryOut (script.decision legacy)).run
        (stage.noting (script.dealings legacy) (script.reports legacy)) := by
  have resolved := script.run_resolve
    (stage.noting [] [⟨.migration, .debug, "Migrating token auth"⟩]) legacy.hostOrDefault token
  unfold Migration.migrateToken dealings lookups form? decision reports
  simp only [mode, secret, ActionE.run_bind, Journal.run_debug, Stage.record_eq, ActionE.run_lift]
  rw [show script.interaction.indicator = script.indicator from rfl, resolved]
  cases script.verdict legacy.hostOrDefault token with
  | ok found => simp [Migration.carryOut]
  | error failure =>
    simp only [ActionE.run_bind, Journal.run_debug, Stage.record_eq, Stage.noting_noting]
    rw [show script.interaction.prompt = script.prompt from rfl, run_registerFromPrompt]
    simp

/-- For every credential the lookups and login forms are made that `dealings` lists, and then the
decision is carried out. -/
theorem run_migrateCredential (script : Script) (stage : Stage) (legacy : LegacyCredential) :
    (script.migration.migrateCredential script.interaction legacy).run stage =
      (script.migration.carryOut (script.decision legacy)).run
        (stage.noting (script.dealings legacy) (script.reports legacy)) := by
  unfold Migration.migrateCredential
  cases mode : legacy.authMode with
  | token =>
    cases secret : legacy.secret with
    | some token => exact script.run_migrateToken stage legacy token mode secret
    | none =>
      simp only [ActionE.run_bind, Journal.run_debug, Stage.record_eq]
      simp [dealings, lookups, form?, decision, reports, mode, secret, Migration.carryOut]
  | basic =>
    simp only [ActionE.run_bind, Journal.run_debug, Stage.record_eq]
    rw [show script.interaction.prompt = script.prompt from rfl, run_registerFromPrompt]
    simp [dealings, lookups, form?, decision, reports, mode]
  | none =>
    simp [dealings, lookups, form?, decision, reports, mode, Migration.carryOut]

/-- The accounts are listed first, and only where there are none a decision is made. -/
theorem run_settle (script : Script) (stage : Stage) (legacy : LegacyCredential) :
    (script.migration.settle script.interaction legacy).run stage =
      let listed := stage.noting [.listAccounts (script.listAnswer stage)] []
      match script.listAnswer stage with
      | .error failure => (.error failure, listed)
      | .ok [] =>
        (script.migration.carryOut (script.decision legacy)).run
          (listed.noting (script.dealings legacy) (script.reports legacy))
      | .ok existing =>
        (.ok .nothingToMigrate,
          listed.noting [] [⟨.migration, .debug, Nat.repr existing.length ++
            " account(s) already registered, discarding legacy auth"⟩]) := by
  unfold Migration.settle
  rw [ActionE.run_bind, show script.migration.accounts = script.accounts from rfl, run_list]
  cases script.listAnswer stage with
  | error failure => rfl
  | ok existing =>
    cases existing with
    | nil => simp [run_migrateCredential]
    | cons first rest =>
      simp
      rfl

end Script

end AccountKeeper
