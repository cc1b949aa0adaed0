import AccountKeeper.Accounts.Register
import AccountKeeper.CommandLine
import AccountKeeper.Identity
import AccountKeeper.Legacy.SettingsFile
import AccountKeeper.Migration
import AccountKeeper.Secrets.Setup
import AccountKeeper.Terminal.Login

/-!
# The program

What the commands do, over any state that has files, a terminal and a network.
`Program.main` takes the arguments and gives the exit code.
-/

set_option autoImplicit false

namespace AccountKeeper

structure Program (σ : Type) where
  files : FileSystem σ
  keyring : Keyring σ
  cipher : Cipher
  network : Network σ
  draw : StateM σ Nat
  terminal : Part σ Terminal
  password : Part σ (Option String)
  listed : Part σ (List Account)

structure Installation (σ : Type) where
  migration : Migration σ
  register : AccountRegister σ

namespace Program

variable {σ : Type}

def print (program : Program σ) (text : String) : StateM σ Unit :=
  program.terminal.liftState (Terminal.result (text ++ "\n"))

def say (program : Program σ) (text : String) : StateM σ Unit :=
  program.terminal.liftState (Terminal.asideLine text)

def backends (program : Program σ) : SecretBackends σ where
  keyring := program.keyring
  files := program.files
  password := program.password
  cipher := program.cipher
  draw := program.draw
  askPassword := program.terminal.liftState Terminal.askPassword

def freshId (program : Program σ) : StateM σ AccountId :=
  return ⟨Uuid.random (← program.draw)⟩

variable [Journal σ]

/-- The stores that a configuration describes; one store of secrets serves old and new data. -/
def install (program : Program σ) (environment : Environment) (config : Config)
    (secrets : SecretStore σ) : Installation σ :=
  let settings : SettingsFile σ := ⟨program.files, config.settingsPath environment⟩
  let register : AccountRegister σ :=
    ⟨program.files, config.statePath environment, secrets, program.listed⟩
  { register
    migration :=
      { legacy := ⟨settings.store, secrets⟩
        accounts := register.store
        resolver := Identity.resolver program.network config.lookups.client
        freshId := program.freshId } }

def openStores (program : Program σ) (environment : Environment) :
    Action σ (Installation σ) := do
  let config ← Config.load program.files environment
  Journal.debug .command ("Loaded configuration: " ++ config.lookups.display)
  let secrets ← program.backends.openChain environment config.secrets
  let installation := program.install environment config secrets.store
  installation.register.load
  return installation

/-! ## Commands -/

def sayLegacy (program : Program σ) (migration : Migration σ) : StateM σ Unit := do
  match ← migration.oldServer with
  | some server =>
    program.print ("Legacy account found on " ++ server.display)
    program.print "Run 'gh-accounts migrate' to add it to the account list."
  | none =>
    if ← migration.hasLegacyAccount then
      program.print "Legacy account found, but its server address is invalid"
      program.print "Run 'gh-accounts migrate' to log in again."
    else
      program.print "✓ No legacy account to migrate"

def status (program : Program σ) (installation : Installation σ) : Action σ Nat := do
  program.sayLegacy installation.migration
  let accounts ← installation.register.accounts
  program.print (Nat.repr accounts.length ++ " account(s) registered")
  return 0

def outcomeLine (outcome : MigrationOutcome) : String :=
  match outcome.account, outcome.legacyCleared with
  | some account, _ => "✓ Migrated legacy account to " ++ account.display
  | none, true => "✓ Removed leftover legacy credentials"
  | none, false => "✓ Nothing to migrate"

def interaction (program : Program σ) (installation : Installation σ) : Interaction σ where
  indicator := Terminal.indicator.on program.terminal
  prompt := TerminalLogin.prompt ⟨program.terminal, installation.migration.resolver⟩

def migrate (program : Program σ) (installation : Installation σ) : Action σ Nat := do
  let outcome ← installation.migration.run .interactive (program.interaction installation)
  if outcome.cancelled then
    program.say "Migration cancelled"
    return 1
  program.print (outcomeLine outcome)
  return 0

def list (program : Program σ) (installation : Installation σ) : Action σ Nat := do
  let accounts ← installation.register.accounts
  if accounts = [] then
    program.print "No accounts registered"
  else
    for account in accounts do
      program.print account.display
  return 0

def command (program : Program σ) (environment : Environment) (command : Command) :
    Action σ Nat := do
  let installation ← program.openStores environment
  match command with
  | .status => program.status installation
  | .migrate => program.migrate installation
  | .list => program.list installation

/-! ## The whole program -/

def failureLine (failure : Failure) : String :=
  "Error: " ++ ": ".intercalate failure.chain

def startLog (program : Program σ) (environment : Environment) (logging : Logging) :
    StateM σ Unit := do
  let (filter, complaints) := logging.filter environment
  for complaint in complaints do
    program.say complaint
  program.terminal.assign { ← program.terminal.look with filter }

def runArguments (program : Program σ) (environment : Environment) (arguments : Arguments) :
    StateM σ Nat := do
  program.startLog environment
    (Logging.ofEnvironment environment arguments.format arguments.verbose)
  match ← (program.command environment arguments.command).outcome with
  | .ok code => return code
  | .error failure =>
    program.say (failureLine failure)
    return failure.exitCode

def versionLine : String := HelpPage.programName ++ " 0.1.0"

def usageCode : Nat := 2

def main (program : Program σ) (environment : Environment) (arguments : List String) :
    StateM σ Nat := do
  let aside (text : String) : StateM σ Unit :=
    program.terminal.liftState (Terminal.aside text)
  match CommandLine.read arguments with
  | .run arguments => program.runArguments environment arguments
  | .help page =>
    program.terminal.liftState (Terminal.result page.text)
    return 0
  | .version =>
    program.print versionLine
    return 0
  | .nothing =>
    aside HelpPage.program.text
    return usageCode
  | .fault cause =>
    aside cause.message
    return usageCode

end Program

end AccountKeeper
