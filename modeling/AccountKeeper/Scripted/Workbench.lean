import AccountKeeper.Accounts.Register
import AccountKeeper.Accounts.Table
import AccountKeeper.Legacy.SettingsFile
import AccountKeeper.Migration
import AccountKeeper.Scripted.Collaborators
import AccountKeeper.Secrets.Setup

/-!
# The workbench

A state that holds everything the stores and the migration can work on:
a file tree, accounts, secrets and settings in memory, scripted collaborators,
the journal, and a count of the identifiers given out.
-/

set_option autoImplicit false

namespace AccountKeeper

structure Workbench where
  files : FileTree := {}
  listed : List Account := []
  tables : List SecretTable := []
  passwords : List (Option String) := []
  settings : SettingsRecord := { settings := {} }
  accounts : AccountTable := {}
  resolver : ScriptedResolver := {}
  prompt : ScriptedPrompt := {}
  indicator : ScriptedIndicator := {}
  journal : List JournalEntry := []
  draws : Nat := 0

namespace Workbench

instance : Journal Workbench where
  record entry bench := { bench with journal := bench.journal ++ [entry] }

def filesPart : Part Workbench FileTree where
  get bench := bench.files
  set files bench := { bench with files }

def listedPart : Part Workbench (List Account) where
  get bench := bench.listed
  set listed bench := { bench with listed }

def tablePart (index : Nat) : Part Workbench SecretTable where
  get bench := bench.tables.getD index {}
  set table bench := { bench with tables := bench.tables.set index table }

def passwordPart (index : Nat) : Part Workbench (Option String) where
  get bench := bench.passwords.getD index none
  set password bench := { bench with passwords := bench.passwords.set index password }

def settingsPart : Part Workbench SettingsRecord where
  get bench := bench.settings
  set settings bench := { bench with settings }

def accountsPart : Part Workbench AccountTable where
  get bench := bench.accounts
  set accounts bench := { bench with accounts }

def resolverPart : Part Workbench ScriptedResolver where
  get bench := bench.resolver
  set resolver bench := { bench with resolver }

def promptPart : Part Workbench ScriptedPrompt where
  get bench := bench.prompt
  set prompt bench := { bench with prompt }

def indicatorPart : Part Workbench ScriptedIndicator where
  get bench := bench.indicator
  set indicator bench := { bench with indicator }

def fileSystem : FileSystem Workbench :=
  FileTree.system.on filesPart

def secretTable (index : Nat) : SecretStore Workbench :=
  SecretTable.store.on (tablePart index)

def settingsRecord : LegacySettingsStore Workbench :=
  SettingsRecord.store.on settingsPart

def accountTable : AccountStore Workbench :=
  AccountTable.store.on accountsPart

/-- The bits of the next draw: a multiple of an odd number with many digits. -/
def drawBits (count : Nat) : Nat :=
  (count + 1) * 0x9E3779B97F4A7C15F39CC0605CEDC8341082276BF3A27251F86C6A11D0C18E95 % Nat.pow 2 384

def draw : StateM Workbench Nat := do
  let bench ← get
  set { bench with draws := bench.draws + 1 }
  return drawBits bench.draws

def freshId : StateM Workbench AccountId :=
  return ⟨Uuid.random (← draw)⟩

def encryptedStore (cipher : Cipher) (place : Nat) (directory service : String) :
    EncryptedStore Workbench where
  files := fileSystem
  directory
  service
  password := passwordPart place
  cipher
  draw

def backends (cipher : Cipher) : SecretBackends Workbench where
  keyring := Keyring.absent
  files := fileSystem
  password := passwordPart 0
  cipher
  draw
  askPassword := return none

def register (path : String) (secrets : SecretStore Workbench) : AccountRegister Workbench where
  files := fileSystem
  path
  secrets
  listed := listedPart

def settingsFile (path : String) : SettingsFile Workbench where
  files := fileSystem
  path

def scriptedResolver : Resolver Workbench :=
  ScriptedResolver.resolver.on resolverPart

def scriptedIndicator : Indicator Workbench :=
  ScriptedIndicator.indicator.on indicatorPart

def scriptedPrompt : LoginPrompt Workbench where
  ask request := promptPart.liftState (ScriptedPrompt.prompt.ask request)

def interaction : Interaction Workbench where
  indicator := scriptedIndicator
  prompt := scriptedPrompt

def migration (legacy : LegacyStore Workbench) (accounts : AccountStore Workbench) :
    Migration Workbench where
  legacy
  accounts
  resolver := scriptedResolver
  freshId

end Workbench

end AccountKeeper
