import AccountKeeper.Accounts.Store
import AccountKeeper.Legacy.Store
import AccountKeeper.LoginForm
import AccountKeeper.Validator

/-!
# Migration of the legacy account

Moves the legacy account into the store of accounts.  Where accounts are
registered already, the legacy data is only erased.  A legacy token is looked
up and registered under the login that the server reports; if that fails, or if
the account used a password, the user is asked to log in.  Unless the user
cancels, the legacy data is erased in the end.
-/

set_option autoImplicit false

namespace AccountKeeper

structure Interaction (σ : Type) where
  indicator : Indicator σ
  prompt : LoginPrompt σ

structure MigrationOutcome where
  account : Option Account := none
  legacyCleared : Bool := false
  cancelled : Bool := false
  deriving DecidableEq, Repr

/-- Whether the migration was completed or not needed. -/
def MigrationOutcome.completed (outcome : MigrationOutcome) : Bool :=
  !outcome.cancelled

inductive MigrationStep where
  | registered (account : Account)
  | nothingToMigrate
  | cancelled
  deriving DecidableEq, Repr

structure Migration (σ : Type) where
  legacy : LegacyStore σ
  accounts : AccountStore σ
  resolver : Resolver σ
  freshId : StateM σ AccountId

namespace Migration

variable {σ : Type} [Journal σ]

def peek (migration : Migration σ) : StateM σ (Option LegacyCredential) := do
  match ← migration.legacy.readSnapshot.outcome with
  | .ok legacy => return some legacy
  | .error failure =>
    Journal.debug .migration ("Could not read legacy auth: " ++ failure.message)
    return none

/-- Whether there is a legacy account; what cannot be read counts as none. -/
def hasLegacyAccount (migration : Migration σ) : StateM σ Bool := do
  match ← migration.peek with
  | some legacy => return legacy.hasLegacyAccount
  | none => return false

/-- The server of the legacy account, if there is an account with a valid address. -/
def oldServer (migration : Migration σ) : StateM σ (Option ServerAddress) := do
  match ← migration.peek with
  | some legacy => if legacy.hasLegacyAccount then legacy.effectiveServer else return none
  | none => return none

def register (migration : Migration σ) (login : String) (server : ServerAddress)
    (token : String) : Action σ MigrationStep := do
  let account : Account := ⟨← migration.freshId, login, server⟩
  migration.accounts.add account token
  Journal.note .migration .info ("Registered account " ++ account.display)
  return .registered account

def registerFromPrompt (migration : Migration σ) (prompt : LoginPrompt σ)
    (request : LoginRequest) : Action σ MigrationStep := do
  match ← prompt.request request with
  | some confirmed => migration.register confirmed.login confirmed.server confirmed.token
  | none => return .cancelled

def resolve (migration : Migration σ) (indicator : Indicator σ) (host token : String) :
    StateM σ (Except LookupFailure (String × ServerAddress)) := do
  match ServerAddress.readHost (some host) with
  | .error failure =>
    Journal.debug .migration failure.message
    return .error (.invalidServer host)
  | .ok server =>
    let answer ← migration.resolver.validate .interactive indicator server token
    return answer.map fun login => (login, server)

def migrateToken (migration : Migration σ) (interaction : Interaction σ) (host token : String) :
    Action σ MigrationStep := do
  Journal.debug .migration "Migrating token auth"
  match ← ActionE.lift (migration.resolve interaction.indicator host token) with
  | .ok (login, server) => migration.register login server token
  | .error failure =>
    Journal.debug .migration
      ("Failed to migrate legacy token, asking the user: " ++ failure.message)
    migration.registerFromPrompt interaction.prompt (.afterFailedLookup host token failure)

def migrateCredential (migration : Migration σ) (interaction : Interaction σ)
    (legacy : LegacyCredential) : Action σ MigrationStep := do
  let host := legacy.hostOrDefault
  match legacy.authMode, legacy.secret with
  | .token, some token => migration.migrateToken interaction host token
  | .token, none =>
    Journal.debug .migration "Token auth without a stored token, nothing to migrate"
    return .nothingToMigrate
  | .basic, password =>
    Journal.debug .migration "Migrating basic auth"
    migration.registerFromPrompt interaction.prompt
      (.forPasswordAccount host legacy.login password)
  | .none, _ => return .nothingToMigrate

/-- Migrates the legacy credential unless accounts are registered already. -/
def settle (migration : Migration σ) (interaction : Interaction σ) (legacy : LegacyCredential) :
    Action σ MigrationStep := do
  let existing ← migration.accounts.list
  if existing = [] then
    migration.migrateCredential interaction legacy
  else
    Journal.debug .migration
      (Nat.repr existing.length ++ " account(s) already registered, discarding legacy auth")
    return .nothingToMigrate

def run (migration : Migration σ) (caller : Caller) (interaction : Interaction σ) :
    Action σ MigrationOutcome := do
  if caller = .runtime then
    throw .wrongThread
  Journal.debug .migration "Migrating legacy auth"
  let legacy ← migration.legacy.readSnapshot
  Journal.debug .migration ("Legacy auth data: " ++ legacy.display)
  if !legacy.hasAnyInfo then
    return {}
  match ← migration.settle interaction legacy with
  | .cancelled => return { cancelled := true }
  | .registered account =>
    migration.legacy.clear
    return { account := some account, legacyCleared := true }
  | .nothingToMigrate =>
    migration.legacy.clear
    return { legacyCleared := true }

/-- Runs the migration; `false` means that the user cancelled. -/
def migrate (migration : Migration σ) (caller : Caller) (interaction : Interaction σ) :
    Action σ Bool := do
  return (← migration.run caller interaction).completed

end Migration

end AccountKeeper
