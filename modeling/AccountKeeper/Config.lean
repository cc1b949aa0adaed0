import AccountKeeper.Files.System
import AccountKeeper.Journal
import AccountKeeper.Secrets.Settings
import AccountKeeper.Text.Quoted
import AccountKeeper.Toml.Decoder
import AccountKeeper.Toml.Printer

/-!
# The configuration

Where things are kept and how lookups are made.  The configuration is a
document with four tables, each of which may be absent, as may all their
entries.
-/

set_option autoImplicit false

namespace AccountKeeper

def defaultUserAgent : String := "gh-accounts/0.1.0"

structure LookupSettings where
  userAgent : Option String := none
  timeoutSeconds : Nat := 30
  deriving DecidableEq, Repr

namespace LookupSettings

def agent (settings : LookupSettings) : String :=
  settings.userAgent.getD defaultUserAgent

def display (settings : LookupSettings) : String :=
  Text.showRecord "GithubConfig"
    [("user_agent", .optional settings.userAgent),
      ("timeout_secs", .word (Nat.repr settings.timeoutSeconds))]

end LookupSettings

structure Config where
  settingsFile : String := "~/.config/gh-accounts/github.toml"
  stateFile : String := "~/.local/share/gh-accounts/accounts.toml"
  secrets : SecretSettings := {}
  lookups : LookupSettings := {}
  deriving DecidableEq, Repr

namespace Config

def settingsPath (config : Config) (environment : Environment) : String :=
  environment.expand config.settingsFile

def statePath (config : Config) (environment : Environment) : String :=
  environment.expand config.stateFile

/-! ## Reading -/

def oneText (name field default : String) : Toml.Decoder String := fun item => do
  let (value, _) ← Toml.Decoder.fields name [field]
    (fun value key item => if key = field then Toml.Decoder.string item else return value)
    default item
  return value

def takeSecret (settings : SecretSettings) (key : String) (item : Toml.Item) :
    Except Toml.Mismatch SecretSettings := do
  match key with
  | "storage" => return { settings with storage := ← Toml.Decoder.choice StorageKind.names item }
  | "path" => return { settings with path := ← Toml.Decoder.string item }
  | _ => return settings

def secretsDecoder : Toml.Decoder SecretSettings := fun item => do
  let (settings, _) ← Toml.Decoder.fields "CredentialConfig" ["storage", "path"] takeSecret
    ({} : SecretSettings) item
  return settings

def takeLookup (settings : LookupSettings) (key : String) (item : Toml.Item) :
    Except Toml.Mismatch LookupSettings := do
  match key with
  | "user_agent" => return { settings with userAgent := some (← Toml.Decoder.string item) }
  | "timeout_secs" =>
    return { settings with timeoutSeconds := ← Toml.Decoder.natBelow (Nat.pow 2 64) "u64" item }
  | _ => return settings

def lookupsDecoder : Toml.Decoder LookupSettings := fun item => do
  let (settings, _) ← Toml.Decoder.fields "GithubConfig" ["user_agent", "timeout_secs"] takeLookup
    ({} : LookupSettings) item
  return settings

def takeTable (config : Config) (key : String) (item : Toml.Item) :
    Except Toml.Mismatch Config := do
  match key with
  | "legacy" =>
    let settingsFile ← oneText "LegacyConfig" "settings_file" ({} : Config).settingsFile item
    return { config with settingsFile }
  | "accounts" =>
    let stateFile ← oneText "AccountsConfig" "state_file" ({} : Config).stateFile item
    return { config with stateFile }
  | "credentials" => return { config with secrets := ← secretsDecoder item }
  | "github" => return { config with lookups := ← lookupsDecoder item }
  | _ => return config

def decoder : Toml.Decoder Config := fun item => do
  let (config, _) ← Toml.Decoder.fields "Config" ["legacy", "accounts", "credentials", "github"]
    takeTable ({} : Config) item
  return config

def check (config : Config) : Except ConfigFailure Unit :=
  if config.lookups.timeoutSeconds = 0 then
    .error (.invalidValue "github.timeout_secs must be at least 1")
  else .ok ()

def parse (text : String) : Except ConfigFailure Config := do
  let config ← (Toml.Decoder.document decoder text).mapError ConfigFailure.malformed
  config.check
  return config

/-! ## Writing -/

def lookupEntries (settings : LookupSettings) : Except Toml.PrintFault Toml.Entries := do
  let timeout ← Toml.Value.natural "u64" settings.timeoutSeconds
  return (settings.userAgent.map fun agent => ("user_agent", Toml.Value.string agent)).toList ++
    [("timeout_secs", timeout)]

/-- The configuration as a table; the master password is left out. -/
def toEntries (config : Config) : Except Toml.PrintFault Toml.Entries := do
  let lookups ← lookupEntries config.lookups
  return [("legacy", .table [("settings_file", .string config.settingsFile)]),
    ("accounts", .table [("state_file", .string config.stateFile)]),
    ("credentials", .table [("storage", .string config.secrets.storage.name),
      ("path", .string config.secrets.path)]),
    ("github", .table lookups)]

def serialize (config : Config) : Except Toml.PrintFault String := do
  return Toml.print (← config.toEntries)

/-- The written configuration, or else the reason why it cannot be written. -/
def print (config : Config) : String :=
  match config.serialize with
  | .ok text => text
  | .error fault => fault.message

/-! ## Loading -/

variable {σ : Type}

def resolvePath (environment : Environment) : Except Failure String :=
  match environment.get? "GH_ACCOUNTS_CONFIG" with
  | some path => .ok (environment.expand path)
  | none =>
    match environment.configDirectory? with
    | some directory => .ok (Path.join (Path.join directory "gh-accounts") "config.toml")
    | none => .error (.config .noDirectory)

def loadFrom (files : FileSystem σ) (path : String) : Action σ Config := do
  let text ← (files.readText path).mapError fun fault => .config (.unreadable fault)
  match parse text with
  | .ok config => return config
  | .error failure => throw (.config failure)

/-- The configuration of the environment; without a file it has all its defaults. -/
def loadFile [Journal σ] (files : FileSystem σ) (environment : Environment) :
    Action σ Config := do
  let path ← resolvePath environment
  if ← files.leads path then
    loadFrom files path
  else
    Journal.debug .config ("No config file at " ++ path ++ ", using defaults")
    return {}

def takePassword [Journal σ] (environment : Environment) (config : Config) :
    StateM σ Config := do
  match SecretSettings.givenPassword? environment with
  | none => return config
  | some password =>
    Journal.debug .credentials
      "Loaded master password from GH_ACCOUNTS_MASTER_PASSWORD environment variable"
    return { config with secrets := { config.secrets with masterPassword := some password } }

def load [Journal σ] (files : FileSystem σ) (environment : Environment) : Action σ Config := do
  let config ← loadFile files environment
  ActionE.lift (takePassword environment config)

end Config

end AccountKeeper
