import AccountKeeper.Files.System
import AccountKeeper.Legacy.Settings
import AccountKeeper.Toml.Decoder
import AccountKeeper.Toml.Printer

/-!
# Legacy settings in a file

The legacy settings live in the table `auth` of a document.  A missing file
means that nothing was ever configured; clearing removes the three settings and
keeps everything else in the file.
-/

set_option autoImplicit false

namespace AccountKeeper

namespace LegacySettings

def fieldNames : List String := ["host", "login", "auth_type"]

/-- Takes one field of the settings; other fields are passed over. -/
def take (settings : LegacySettings) (key : String) (item : Toml.Item) :
    Except Toml.Mismatch LegacySettings := do
  match key with
  | "host" => return { settings with host := some (← Toml.Decoder.string item) }
  | "login" => return { settings with login := some (← Toml.Decoder.string item) }
  | "auth_type" => return { settings with authMode := ← Toml.Decoder.choice AuthMode.names item }
  | _ => return settings

def decoder : Toml.Decoder LegacySettings := fun item => do
  let (settings, _) ← Toml.Decoder.fields "LegacyAuthSettings" fieldNames take
    ({} : LegacySettings) item
  return settings

def documentDecoder : Toml.Decoder LegacySettings := fun item => do
  let (settings, _) ← Toml.Decoder.fields "LegacyFile" ["auth"]
    (fun settings key item => if key = "auth" then decoder item else return settings)
    ({} : LegacySettings) item
  return settings

def ofDocument (text : String) : Except Toml.Fault LegacySettings :=
  Toml.Decoder.document documentDecoder text

def toEntries (settings : LegacySettings) : Toml.Entries :=
  ("auth_type", .string settings.authMode.name) ::
    (settings.host.map fun host => ("host", Toml.Value.string host)).toList ++
    (settings.login.map fun login => ("login", Toml.Value.string login)).toList

/-- Removes the settings from a document; a table that holds nothing else goes as well. -/
def clearFrom (document : Toml.Entries) : Toml.Entries :=
  match document.get? "auth" with
  | some (.table auth) =>
    let kept := auth.filter fun entry => entry.1 ∉ fieldNames
    if kept = [] then Toml.Entries.erase "auth" document
    else Toml.Entries.insert "auth" (.table kept) document
  | _ => document

def writeTo (document : Toml.Entries) (settings : LegacySettings) : Toml.Entries :=
  Toml.Entries.insert "auth" (.table settings.toEntries) document

end LegacySettings

structure SettingsFile (σ : Type) where
  files : FileSystem σ
  path : String

namespace SettingsFile

variable {σ : Type}

def text? (file : SettingsFile σ) : Action σ (Option String) := do
  if ← file.files.leads file.path then
    let text ← (file.files.readText file.path).mapError fun fault => .legacy (.unreadable fault)
    return some text
  else
    return none

def document? (file : SettingsFile σ) : Action σ (Option Toml.Entries) := do
  match ← file.text? with
  | none => return none
  | some text =>
    match Toml.parse text with
    | some document => return some document
    | none => throw (.legacy (.malformed .notADocument))

def replace (file : SettingsFile σ) (document : Toml.Entries) : Action σ Unit := do
  (file.files.makeParents file.path).mapError fun fault => .legacy (.unwritable (.directory fault))
  (file.files.writeText file.path (Toml.print document)).mapError fun fault =>
    .legacy (.unwritable (.file fault))

def read (file : SettingsFile σ) : Action σ LegacySettings := do
  match ← file.text? with
  | none => return {}
  | some text =>
    match LegacySettings.ofDocument text with
    | .ok settings => return settings
    | .error fault => throw (.legacy (.malformed fault))

/-- Removes the settings and keeps the rest of the file. -/
def clear (file : SettingsFile σ) : Action σ Unit := do
  match ← file.document? with
  | none => return ()
  | some document => file.replace (LegacySettings.clearFrom document)

def write (file : SettingsFile σ) (settings : LegacySettings) : Action σ Unit := do
  let document ← file.document?
  file.replace (settings.writeTo (document.getD []))

def store (file : SettingsFile σ) : LegacySettingsStore σ where
  read := file.read
  clear := file.clear

end SettingsFile

end AccountKeeper
