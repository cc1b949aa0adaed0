import AccountKeeper.Migration
import AccountKeeper.Proofs.Accounts.Table
import AccountKeeper.Proofs.Progress

/-!
# Rehearsals of a migration

A rehearsal runs a migration between stores in memory.  A script says what the
collaborators answer, and on which calls to a store a failure is forced; such a
call has no effect.  Every call is written down with its answer, in the order
in which the calls are made.
-/

set_option autoImplicit false

namespace AccountKeeper

/-- A call of a migration on one of its collaborators, with the answer to it. -/
inductive MigrationCall where
  | readSettings (answer : Except Failure LegacySettings)
  | readSecret (key : String) (answer : Except Failure (Option String))
  | listAccounts (answer : Except Failure (List Account))
  | addAccount (account : Account) (token : String) (answer : Except Failure Unit)
  | setToken (id : AccountId) (token : String) (answer : Except Failure Unit)
  | clearSettings (answer : Except Failure Unit)
  | writeSecret (key : String) (value : Option String) (answer : Except Failure Unit)
  | showIndicator (title : String)
  | hideIndicator (cancelled : Bool)
  | lookUp (server : ServerAddress) (token : String)
      (task : BackgroundTask (Except LookupFailure String))
  | ask (request : LoginRequest) (answer : Option ConfirmedLogin)

structure Stage where
  settings : SettingsRecord
  secrets : SecretTable := {}
  accounts : AccountTable := {}
  draws : Nat := 0
  calls : List MigrationCall := []
  journal : List JournalEntry := []

namespace Stage

instance : Journal Stage where
  record entry stage := { stage with journal := stage.journal ++ [entry] }

def settingsPart : Part Stage SettingsRecord where
  get stage := stage.settings
  set settings stage := { stage with settings }

def secretsPart : Part Stage SecretTable where
  get stage := stage.secrets
  set secrets stage := { stage with secrets }

def accountsPart : Part Stage AccountTable where
  get stage := stage.accounts
  set accounts stage := { stage with accounts }

def legacySecret (stage : Stage) : Option String :=
  stage.secrets.get? legacySecretKey

def credential (stage : Stage) : LegacyCredential :=
  .ofParts stage.settings.settings stage.legacySecret

def drawn (stage : Stage) : Stage :=
  { stage with draws := stage.draws + 1 }

def holding (stage : Stage) (accounts : AccountTable) : Stage :=
  { stage with accounts }

def settingsCleared (stage : Stage) : Stage :=
  { stage with
    settings := { stage.settings with settings := {}, clears := stage.settings.clears + 1 } }

def secretErased (stage : Stage) : Stage :=
  { stage with secrets := stage.secrets.put legacySecretKey none }

/-- The stage after further calls and reports. -/
def noting (stage : Stage) (made : List MigrationCall) (reports : List JournalEntry) : Stage :=
  { stage with calls := stage.calls ++ made, journal := stage.journal ++ reports }

@[simp] theorem record_eq (entry : JournalEntry) (stage : Stage) :
    Journal.record entry stage = stage.noting [] [entry] := by
  simp [Journal.record, noting]

@[simp] theorem noting_nil (stage : Stage) : stage.noting [] [] = stage := by
  simp [noting]

@[simp] theorem noting_noting (stage : Stage) (made made' : List MigrationCall)
    (reports reports' : List JournalEntry) :
    (stage.noting made reports).noting made' reports' =
      stage.noting (made ++ made') (reports ++ reports') := by
  simp [noting]

@[simp] theorem settings_noting (stage : Stage) (made : List MigrationCall)
    (reports : List JournalEntry) : (stage.noting made reports).settings = stage.settings := rfl

@[simp] theorem secrets_noting (stage : Stage) (made : List MigrationCall)
    (reports : List JournalEntry) : (stage.noting made reports).secrets = stage.secrets := rfl

@[simp] theorem accounts_noting (stage : Stage) (made : List MigrationCall)
    (reports : List JournalEntry) : (stage.noting made reports).accounts = stage.accounts := rfl

@[simp] theorem calls_noting (stage : Stage) (made : List MigrationCall)
    (reports : List JournalEntry) :
    (stage.noting made reports).calls = stage.calls ++ made := rfl

@[simp] theorem credential_noting (stage : Stage) (made : List MigrationCall)
    (reports : List JournalEntry) : (stage.noting made reports).credential = stage.credential := rfl

@[simp] theorem calls_drawn (stage : Stage) : stage.drawn.calls = stage.calls := rfl

@[simp] theorem calls_holding (stage : Stage) (accounts : AccountTable) :
    (stage.holding accounts).calls = stage.calls := rfl

@[simp] theorem calls_settingsCleared (stage : Stage) :
    stage.settingsCleared.calls = stage.calls := rfl

@[simp] theorem calls_secretErased (stage : Stage) :
    stage.secretErased.calls = stage.calls := rfl

end Stage

/-- What the collaborators of a migration answer, and which calls to a store fail. -/
structure Script where
  lookup : ServerAddress → String → BackgroundTask (Except LookupFailure String)
  answer : LoginRequest → Option ConfirmedLogin
  moves : Nat → List Move
  newId : Nat → AccountId
  /-- The failure forced on a call, given the number of calls before it. -/
  outage : Nat → Option Failure

namespace Script

def calm (script : Script) : Script :=
  { script with outage := fun _ => none }

/-- Makes a call on a store, or lets it fail without an effect, and writes it down. -/
def call {α : Type} (script : Script) (entry : Except Failure α → MigrationCall)
    (action : Action Stage α) : Action Stage α :=
  ActionE.of fun stage =>
    match script.outage stage.calls.length with
    | some failure => (.error failure, stage.noting [entry (.error failure)] [])
    | none =>
      let (answer, after) := action.run stage
      (answer, after.noting [entry answer] [])

def settings (script : Script) : LegacySettingsStore Stage where
  read := script.call .readSettings (Stage.settingsPart.lift SettingsRecord.store.read)
  clear := script.call .clearSettings (Stage.settingsPart.lift SettingsRecord.store.clear)

def secrets (script : Script) : SecretStore Stage where
  get key := script.call (.readSecret key) (Stage.secretsPart.lift (SecretTable.store.get key))
  set key value :=
    script.call (.writeSecret key value) (Stage.secretsPart.lift (SecretTable.store.set key value))
  name := SecretTable.store.name

def accounts (script : Script) : AccountStore Stage where
  list := script.call .listAccounts (Stage.accountsPart.lift AccountTable.store.list)
  add account token :=
    script.call (.addAccount account token)
      (Stage.accountsPart.lift (AccountTable.store.add account token))
  setToken id token :=
    script.call (.setToken id token)
      (Stage.accountsPart.lift (AccountTable.store.setToken id token))

def mark (entry : MigrationCall) : StateM Stage Unit :=
  modify (Stage.noting · [entry] [])

def resolver (script : Script) : Resolver Stage where
  lookup server token := do
    mark (.lookUp server token (script.lookup server token))
    return script.lookup server token

def indicator (script : Script) : Indicator Stage where
  start title := mark (.showIndicator title)
  moves duration := return script.moves duration
  stop cancelled := mark (.hideIndicator cancelled)

def prompt (script : Script) : LoginPrompt Stage where
  ask request := do
    mark (.ask request (script.answer request))
    return script.answer request

def interaction (script : Script) : Interaction Stage where
  indicator := script.indicator
  prompt := script.prompt

def freshId (script : Script) : StateM Stage AccountId := do
  let stage ← get
  set { stage with draws := stage.draws + 1 }
  return script.newId stage.draws

def migration (script : Script) : Migration Stage where
  legacy := ⟨script.settings, script.secrets⟩
  accounts := script.accounts
  resolver := script.resolver
  freshId := script.freshId

/-! ## Runs of single calls -/

variable (script : Script) (stage : Stage)

@[simp] theorem run_mark (entry : MigrationCall) :
    StateT.run (mark entry) stage = ((), stage.noting [entry] []) := rfl

theorem run_ask (request : LoginRequest) :
    StateT.run (script.prompt.ask request) stage =
      (script.answer request, stage.noting [.ask request (script.answer request)] []) := rfl

theorem run_freshId :
    StateT.run script.freshId stage =
      (script.newId stage.draws, stage.drawn) := rfl

theorem run_call {α : Type} (entry : Except Failure α → MigrationCall)
    (action : Action Stage α) :
    (script.call entry action).run stage =
      match script.outage stage.calls.length with
      | some failure => (.error failure, stage.noting [entry (.error failure)] [])
      | none =>
        ((action.run stage).1, (action.run stage).2.noting [entry (action.run stage).1] []) := rfl

def settingsAnswer : Except Failure LegacySettings :=
  match script.outage stage.calls.length with
  | some failure => .error failure
  | none => (SettingsRecord.store.read.run stage.settings).1

theorem run_read :
    script.settings.read.run stage =
      (script.settingsAnswer stage,
        stage.noting [.readSettings (script.settingsAnswer stage)] []) := by
  unfold settings settingsAnswer
  rw [run_call]
  cases script.outage stage.calls.length with
  | some failure => rfl
  | none =>
    have unchanged : (SettingsRecord.store.read.run stage.settings).2 = stage.settings := by
      simp only [SettingsRecord.store, ActionE.run_bind, ActionE.run_get]
      cases stage.settings.failReads <;> rfl
    simp only [Part.run_lift, Stage.settingsPart, unchanged]

theorem settingsAnswer_ok (answer : LegacySettings)
    (answered : script.settingsAnswer stage = .ok answer) : answer = stage.settings.settings := by
  unfold settingsAnswer at answered
  split at answered
  · cases answered
  · simp only [SettingsRecord.store, ActionE.run_bind, ActionE.run_get] at answered
    cases reads : stage.settings.failReads with
    | true => simp [reads] at answered
    | false =>
      simp only [reads] at answered
      cases answered
      rfl

def secretAnswer : Except Failure (Option String) :=
  match script.outage stage.calls.length with
  | some failure => .error failure
  | none => .ok stage.legacySecret

theorem run_getSecret :
    (script.secrets.get legacySecretKey).run stage =
      (script.secretAnswer stage,
        stage.noting [.readSecret legacySecretKey (script.secretAnswer stage)] []) := by
  unfold secrets secretAnswer
  rw [run_call]
  cases script.outage stage.calls.length <;> rfl

def listAnswer : Except Failure (List Account) :=
  match script.outage stage.calls.length with
  | some failure => .error failure
  | none => .ok stage.accounts.accounts

theorem run_list :
    script.accounts.list.run stage =
      (script.listAnswer stage, stage.noting [.listAccounts (script.listAnswer stage)] []) := by
  unfold accounts listAnswer
  rw [run_call]
  cases script.outage stage.calls.length <;> rfl

def addition (account : Account) (token : String) : Except Failure AccountTable :=
  match script.outage stage.calls.length with
  | some failure => .error failure
  | none => stage.accounts.grown account token

theorem run_add (account : Account) (token : String) :
    (script.accounts.add account token).run stage =
      match script.addition stage account token with
      | .ok accounts =>
        (.ok (), (stage.holding accounts).noting [.addAccount account token (.ok ())] [])
      | .error failure =>
        (.error failure, stage.noting [.addAccount account token (.error failure)] []) := by
  unfold accounts addition
  simp only [run_call]
  cases script.outage stage.calls.length with
  | some failure => rfl
  | none =>
    simp only [Part.run_lift, Stage.accountsPart, AccountTable.store, AccountTable.run_add]
    cases stage.accounts.grown account token <;> rfl

theorem run_clear :
    script.settings.clear.run stage =
      match script.outage stage.calls.length with
      | some failure => (.error failure, stage.noting [.clearSettings (.error failure)] [])
      | none =>
        (.ok (), stage.settingsCleared.noting [.clearSettings (.ok ())] []) := by
  unfold settings
  rw [run_call]
  cases script.outage stage.calls.length <;> rfl

theorem run_eraseSecret :
    (script.secrets.set legacySecretKey none).run stage =
      match script.outage stage.calls.length with
      | some failure =>
        (.error failure, stage.noting [.writeSecret legacySecretKey none (.error failure)] [])
      | none =>
        (.ok (), stage.secretErased.noting [.writeSecret legacySecretKey none (.ok ())] []) := by
  unfold secrets
  rw [run_call]
  cases script.outage stage.calls.length <;> rfl

end Script

end AccountKeeper
