import AccountKeeper.Proofs.Migration.Decision
import AccountKeeper.Proofs.Migration.Run

/-!
# What a run shows

A `Course` is what a run of a migration shows to the outside: its result, whom
it asks, what it writes, and what is stored in the end.  Between stores that do
not fail, the course shows the decision that was made (`calm_finish`).
-/

set_option autoImplicit false

namespace AccountKeeper

namespace MigrationCall

def lookup? : MigrationCall → Option (ServerAddress × String)
  | .lookUp server token _ => some (server, token)
  | _ => none

def form? : MigrationCall → Option LoginRequest
  | .ask request _ => some request
  | _ => none

/-- Whether the call is meant to change a store. -/
def isWrite : MigrationCall → Bool
  | .addAccount _ _ _ | .setToken _ _ _ | .clearSettings _ | .writeSecret _ _ _ => true
  | _ => false

def erasure : List MigrationCall :=
  [.clearSettings (.ok ()), .writeSecret legacySecretKey none (.ok ())]

end MigrationCall

/-- What a run shows to the outside, in the order in which it happens. -/
structure Course where
  result : Except Failure MigrationOutcome
  lookups : List (ServerAddress × String)
  forms : List LoginRequest
  writes : List MigrationCall
  settings : LegacySettings
  secrets : String → Option String
  entries : List (Account × String)

/-- A stage before a run, between stores that do not fail by themselves. -/
def Stage.opened (settings : LegacySettings) (secrets : SecretTable)
    (entries : List (Account × String)) : Stage where
  settings := { settings }
  secrets
  accounts := { entries }

namespace Course

def ofRun (ended : Except Failure MigrationOutcome × Stage) : Course where
  result := ended.1
  lookups := ended.2.calls.filterMap MigrationCall.lookup?
  forms := ended.2.calls.filterMap MigrationCall.form?
  writes := ended.2.calls.filter MigrationCall.isWrite
  settings := ended.2.settings.settings
  secrets := ended.2.secrets.get?
  entries := ended.2.accounts.entries

variable (course : Course) (start : Stage)

structure AsksNobody : Prop where
  lookups : course.lookups = []
  forms : course.forms = []

structure KeepsLegacy : Prop where
  settings : course.settings = start.settings.settings
  secrets : course.secrets = start.secrets.get?

/-- The legacy data is gone, and no other secret is. -/
structure ErasesLegacy : Prop where
  settings : course.settings = {}
  secrets : course.secrets =
    fun key => if key = legacySecretKey then none else start.secrets.get? key

/-- The run ends with an outcome and without a write. -/
structure EndsUntouched (outcome : MigrationOutcome) : Prop extends course.KeepsLegacy start where
  result : course.result = .ok outcome
  writes : course.writes = []
  entries : course.entries = start.accounts.entries

structure Discards : Prop extends course.ErasesLegacy start where
  result : course.result = .ok { legacyCleared := true }
  writes : course.writes = MigrationCall.erasure
  entries : course.entries = start.accounts.entries

/-- One account is added with its token, and the legacy data is erased after it. -/
structure Registers (account : Account) (token : String) : Prop
    extends course.ErasesLegacy start where
  result : course.result = .ok { account := some account, legacyCleared := true }
  writes : course.writes = .addAccount account token (.ok ()) :: MigrationCall.erasure
  entries : course.entries = [(account, token)]

/-- The store refuses the account, and nothing is changed. -/
structure Refused (account : Account) (token : String) (failure : Failure) : Prop
    extends course.KeepsLegacy start where
  result : course.result = .error failure
  writes : course.writes = [.addAccount account token (.error failure)]
  entries : course.entries = []

/-- A login on a server is registered, unless it is no login at all. -/
def Settles (id : AccountId) (login : String) (server : ServerAddress) (token : String) : Prop :=
  match Login.require login with
  | .ok () => course.Registers start ⟨id, login, server⟩ token
  | .error failure => course.Refused start ⟨id, login, server⟩ token failure

variable {course start} in
theorem Settles.of_accepted {id : AccountId} {login token : String} {server : ServerAddress}
    (accepted : Login.require login = .ok ())
    (registers : course.Registers start ⟨id, login, server⟩ token) :
    course.Settles start id login server token := by
  unfold Settles
  rw [accepted]
  exact registers

variable {course start} in
theorem Settles.of_rejected {id : AccountId} {login token : String} {server : ServerAddress}
    {failure : Failure} (rejected : Login.require login = .error failure)
    (refused : course.Refused start ⟨id, login, server⟩ token failure) :
    course.Settles start id login server token := by
  unfold Settles
  rw [rejected]
  exact refused

/-- One form is shown: what the user confirms is registered as it is, and a cancellation ends
the run without a write. -/
structure Asks (script : Script) (request : LoginRequest) : Prop where
  forms : course.forms = [request]
  confirmed : ∀ login server token, script.answer request = some ⟨login, server, token⟩ →
    course.Settles start (script.newId 0) login server token
  cancelled : script.answer request = none → course.EndsUntouched start { cancelled := true }

end Course

def Stage.snapshotCalls (stage : Stage) : List MigrationCall :=
  [.readSettings (.ok stage.settings.settings),
    .readSecret legacySecretKey (.ok stage.legacySecret)]

namespace Script

variable (script : Script) (stage : Stage)

/-! ## Stores that do not fail -/

@[simp] theorem calm_outage (count : Nat) : script.calm.outage count = none := rfl

theorem calm_readSnapshot (reads : stage.settings.failReads = false) :
    script.calm.migration.legacy.readSnapshot.run stage =
      (.ok stage.credential, stage.noting stage.snapshotCalls []) := by
  have answer : script.calm.settingsAnswer stage = .ok stage.settings.settings := by
    simp only [settingsAnswer, calm_outage, SettingsRecord.store, ActionE.run_bind,
      ActionE.run_get, reads]
    rfl
  rw [LegacyStore.run_readSnapshot,
    show script.calm.migration.legacy.settings = script.calm.settings from rfl, run_read,
    show script.calm.migration.legacy.secrets = script.calm.secrets from rfl, answer]
  dsimp only
  rw [run_getSecret]
  simp [secretAnswer, Stage.snapshotCalls, Stage.credential, Except.map, Stage.legacySecret]

theorem calm_clear :
    script.calm.migration.legacy.clear.run stage =
      (.ok (), stage.settingsCleared.secretErased.noting MigrationCall.erasure
        [⟨.legacy, .debug, "Cleared legacy auth settings and secret"⟩]) := by
  rw [LegacyStore.run_clear,
    show script.calm.migration.legacy.settings = script.calm.settings from rfl, run_clear,
    show script.calm.migration.legacy.secrets = script.calm.secrets from rfl]
  simp only [calm_outage, run_eraseSecret, Stage.record_eq, Stage.noting_noting]
  simp [Stage.noting, Stage.settingsCleared, Stage.secretErased, MigrationCall.erasure]

theorem calm_settle (legacy : LegacyCredential) :
    ∃ reports, (script.calm.migration.settle script.calm.interaction legacy).run stage =
      (script.calm.migration.carryOut
        (if stage.accounts.entries = [] then script.decision legacy else .nothingToMigrate)).run
        (stage.noting (.listAccounts (.ok stage.accounts.accounts) ::
          if stage.accounts.entries = [] then script.dealings legacy else []) reports) := by
  have answer : script.calm.listAnswer stage = .ok stage.accounts.accounts := rfl
  rw [run_settle, answer]
  cases entries : stage.accounts.entries with
  | nil =>
    refine ⟨script.reports legacy, ?_⟩
    simp [AccountTable.accounts, entries]
    rfl
  | cons first rest =>
    refine ⟨[⟨.migration, .debug, Nat.repr (first :: rest).length ++
      " account(s) already registered, discarding legacy auth"⟩], ?_⟩
    simp [AccountTable.accounts, entries, Migration.carryOut]

end Script

def Migration.finish {σ : Type} [Journal σ] (migration : Migration σ) (decision : Decision) :
    Action σ MigrationOutcome := do
  migration.conclude (← migration.carryOut decision)

namespace Script

variable (script : Script) (start : Stage)

theorem calm_run (reads : start.settings.failReads = false) :
    ∃ reports, (script.calm.migration.run .interactive script.calm.interaction).run start =
      if start.credential.hasAnyInfo then
        (script.calm.migration.finish
          (if start.accounts.entries = [] then script.decision start.credential
            else .nothingToMigrate)).run
          (start.noting (start.snapshotCalls ++ .listAccounts (.ok start.accounts.accounts) ::
            if start.accounts.entries = [] then script.dealings start.credential else []) reports)
      else (.ok {}, start.noting start.snapshotCalls reports) := by
  let opening : JournalEntry := ⟨.migration, .debug, "Migrating legacy auth"⟩
  let known : JournalEntry :=
    ⟨.migration, .debug, "Legacy auth data: " ++ start.credential.display⟩
  have read := script.calm_readSnapshot (start.noting [] [opening]) reads
  rw [Migration.run_interactive, Stage.record_eq, read]
  cases informed : start.credential.hasAnyInfo with
  | false =>
    refine ⟨[opening, known], ?_⟩
    simp [informed, known, Stage.snapshotCalls, Stage.legacySecret]
  | true =>
    obtain ⟨reports, settled⟩ := script.calm_settle
      (start.noting start.snapshotCalls [opening, known]) start.credential
    refine ⟨[opening, known] ++ reports, ?_⟩
    simp only [Stage.record_eq, Stage.noting_noting, Stage.credential_noting, informed, if_true,
      List.nil_append, List.append_nil, List.cons_append]
    simp only [Stage.noting_noting, Stage.accounts_noting] at settled
    rw [show (start.noting [] [opening]).snapshotCalls = start.snapshotCalls from rfl,
      Migration.finish, ActionE.run_bind, ActionE.run_bind, settled]
    rfl

end Script

/-! ## What a run shows -/

def MigrationStep.account? : MigrationStep → Option Account
  | .registered account => some account
  | _ => none

def Course.CarriesOut (course : Course) (start : Stage) (id : AccountId) : Decision → Prop
  | .nothingToMigrate => course.Discards start
  | .cancelled => course.EndsUntouched start { cancelled := true }
  | .register login server token => course.Settles start id login server token

namespace Script

variable (script : Script) (settings : LegacySettings) (secrets : SecretTable)
  (entries : List (Account × String))

theorem untouched_noting (outcome : MigrationOutcome) (made : List MigrationCall)
    (reports : List JournalEntry) (quiet : made.filter MigrationCall.isWrite = []) :
    let start := Stage.opened settings secrets entries
    (Course.ofRun (.ok outcome, start.noting made reports)).EndsUntouched start outcome where
  settings := rfl
  secrets := rfl
  result := rfl
  writes := by simpa [Course.ofRun, Stage.opened] using quiet
  entries := rfl

theorem secrets_cleared (stage : Stage) :
    stage.settingsCleared.secretErased.secrets.get? =
      fun key => if key = legacySecretKey then none else stage.secrets.get? key := by
  funext key
  exact SecretTable.get?_put _ _ _ _

theorem calm_conclude (stage : Stage) (step : MigrationStep) (kept : step ≠ .cancelled) :
    ∃ reports, (script.calm.migration.conclude step).run stage =
      (.ok { account := step.account?, legacyCleared := true },
        stage.settingsCleared.secretErased.noting MigrationCall.erasure reports) := by
  refine ⟨[⟨.legacy, .debug, "Cleared legacy auth settings and secret"⟩], ?_⟩
  cases step with
  | cancelled => exact absurd rfl kept
  | nothingToMigrate => simp [Migration.conclude, calm_clear, Except.map, MigrationStep.account?]
  | registered account =>
    simp [Migration.conclude, calm_clear, Except.map, MigrationStep.account?]

/-- A decision is carried out without any more questions, and the writes are those of the
decision. -/
theorem calm_finish (decision : Decision) (made : List MigrationCall)
    (reports : List JournalEntry) (quiet : made.filter MigrationCall.isWrite = [])
    (alone : decision = .nothingToMigrate ∨ entries = []) :
    let start := Stage.opened settings secrets entries
    let course :=
      Course.ofRun ((script.calm.migration.finish decision).run (start.noting made reports))
    course.lookups = made.filterMap MigrationCall.lookup? ∧
      course.forms = made.filterMap MigrationCall.form? ∧
      course.CarriesOut start (script.newId 0) decision := by
  intro start course
  cases decision with
  | nothingToMigrate =>
    obtain ⟨later, cleared⟩ :=
      script.calm_conclude (start.noting made reports) .nothingToMigrate (by simp)
    have ended : course = .ofRun _ := congrArg Course.ofRun cleared
    rw [ended]
    refine ⟨?_, ?_, ⟨⟨rfl, secrets_cleared _⟩, rfl, ?_, rfl⟩⟩
    · simp [Course.ofRun, start, Stage.opened, MigrationCall.erasure, MigrationCall.lookup?]
    · simp [Course.ofRun, start, Stage.opened, MigrationCall.erasure, MigrationCall.form?]
    · simp [Course.ofRun, start, Stage.opened, MigrationCall.erasure, quiet,
        MigrationCall.isWrite]
  | cancelled =>
    have ended : course = .ofRun (.ok { cancelled := true }, start.noting made reports) := rfl
    rw [ended]
    exact ⟨rfl, rfl, untouched_noting settings secrets entries _ made reports quiet⟩
  | register login server token =>
    obtain rfl : entries = [] := by simpa using alone
    have added := script.calm.run_register (start.noting made reports) login server token
    have grown : script.calm.addition (start.noting made reports).drawn
        (script.calm.newAccount (start.noting made reports) login server) token =
        (Login.require login).map fun _ =>
          { entries := [(⟨script.newId 0, login, server⟩, token)] } :=
      AccountTable.grown_of_empty _ token
    have finished : course = .ofRun _ := congrArg Course.ofRun (ActionE.run_bind _ _ _)
    rw [finished]
    simp only [grown] at added
    unfold Migration.carryOut Course.CarriesOut
    cases accepted : Login.require login with
    | ok _ =>
      simp only [accepted, Except.map] at added
      rw [added]
      dsimp only
      obtain ⟨later, cleared⟩ := script.calm_conclude _ (.registered _) (by simp)
      rw [cleared]
      refine ⟨?_, ?_, .of_accepted accepted ⟨⟨rfl, secrets_cleared _⟩, rfl, ?_, rfl⟩⟩
      · simp [Course.ofRun, start, Stage.opened, MigrationCall.erasure, MigrationCall.lookup?]
      · simp [Course.ofRun, start, Stage.opened, MigrationCall.erasure, MigrationCall.form?]
      · simp [Course.ofRun, start, Stage.opened, MigrationCall.erasure, quiet]
        rfl
    | error failure =>
      simp only [accepted, Except.map] at added
      rw [added]
      dsimp only
      refine ⟨?_, ?_, .of_rejected accepted ⟨⟨rfl, rfl⟩, rfl, ?_, rfl⟩⟩
      · simp [Course.ofRun, start, Stage.opened, MigrationCall.lookup?]
      · simp [Course.ofRun, start, Stage.opened, MigrationCall.form?]
      · simp [Course.ofRun, start, Stage.opened, quiet]
        rfl

end Script

end AccountKeeper
