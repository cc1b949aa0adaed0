import AccountKeeper.Program
import AccountKeeper.Proofs.Legacy.Documents
import AccountKeeper.Proofs.Secrets.Calls
import AccountKeeper.Proofs.Server.Lookup
import AccountKeeper.Proofs.Terminal.Talk

/-!
# Workstations

A workstation is what the program runs on once its stores are open: a
terminal, files, secrets, the list of accounts, and a network.  All writes
succeed.  The theorems say what the program reads of a legacy account there,
and what `status` prints about it.
-/

set_option autoImplicit false

namespace AccountKeeper

/-- What is kept on a workstation. -/
structure Shelf where
  files : String → Option ByteArray
  secrets : SecretTable
  listed : List Account

/-- The shelf with another content in one file. -/
def Shelf.holding (shelf : Shelf) (path : String) (content : Option ByteArray) : Shelf :=
  { shelf with files := fun other => if other = path then content else shelf.files other }

structure Workstation where
  terminal : Terminal
  shelf : Shelf
  password : Option String := none
  requests : Nat := 0
  draws : Nat := 0

namespace Workstation

instance : Journal Workstation where
  record entry station := { station with terminal := Journal.record entry station.terminal }

def terminalPart : Part Workstation Terminal where
  get station := station.terminal
  set terminal station := { station with terminal }

def passwordPart : Part Workstation (Option String) where
  get station := station.password
  set password station := { station with password }

def shelfPart : Part Workstation Shelf where
  get station := station.shelf
  set shelf station := { station with shelf }

def secretsPart : Part Shelf SecretTable where
  get shelf := shelf.secrets
  set secrets shelf := { shelf with secrets }

def listedPart : Part Shelf (List Account) where
  get shelf := shelf.listed
  set listed shelf := { shelf with listed }

/-- Files by their paths; there is a directory for each of them. -/
def files : FileSystem Shelf where
  leads path := return ((← get).files path).isSome
  read path := ActionE.of fun shelf => ((shelf.files path).elim (.error .notFound) .ok, shelf)
  write path content := ActionE.of fun shelf =>
    (.ok (), shelf.holding path (some content))
  setMode _ _ := return ()
  remove path := ActionE.of fun shelf => (.ok (), shelf.holding path none)
  isLink _ := return false
  makeParents _ := return ()
  makeDirectories _ := return ()

/-- What the network does with each request, given how many were sent before. -/
abbrev Replies := Nat → HttpRequest → HttpOutcome × Nat

def network (replies : Replies) : Network Workstation where
  send request := do
    let station ← get
    set { station with requests := station.requests + 1 }
    return replies station.requests request

def draw : StateM Workstation Nat := do
  let station ← get
  set { station with draws := station.draws + 1 }
  return station.draws

def program (cipher : Cipher) (replies : Replies) : Program Workstation where
  files := files.on shelfPart
  keyring := Keyring.absent
  cipher
  network := network replies
  draw
  terminal := terminalPart
  password := passwordPart
  listed := shelfPart.andThen listedPart

def secrets : SecretStore Workstation :=
  SecretTable.store.on (shelfPart.andThen secretsPart)

def installation (cipher : Cipher) (replies : Replies) (environment : Environment)
    (config : Config) : Installation Workstation :=
  (program cipher replies).install environment config secrets

/-! ## The legacy account -/

section Settings

variable (path : String) (station : Workstation)

/-- The file of the legacy settings, as the program opens it. -/
def settingsFile : SettingsFile Workstation := ⟨files.on shelfPart, path⟩

def text? : Except Failure (Option String) :=
  match station.shelf.files path with
  | none => .ok none
  | some content =>
    match String.fromUTF8? content with
    | none => .error (.legacy (.unreadable .notText))
    | some text => .ok (some text)

theorem text?_of_content {text : String}
    (content : station.shelf.files path = some text.toUTF8) :
    station.text? path = .ok (some text) := by
  unfold text?
  rw [content]
  dsimp only
  rw [Text.Utf8.fromUTF8?_toUTF8]

theorem content_of_text? {text : String} (read : station.text? path = .ok (some text)) :
    station.shelf.files path = some text.toUTF8 := by
  unfold text? at read
  split at read
  · cases read
  · rename_i content found
    split at read
    · cases read
    · rename_i decoded
      cases read
      rw [found]
      unfold String.fromUTF8? at decoded
      split at decoded
      · cases decoded
        rfl
      · cases decoded

theorem run_text? : (settingsFile path).text?.run station = (station.text? path, station) := by
  have leads : ActionE.run (liftM ((settingsFile path).files.leads (settingsFile path).path) :
      Action Workstation Bool) station = (.ok (station.shelf.files path).isSome, station) := rfl
  have reads : ((settingsFile path).files.read (settingsFile path).path).run station =
      ((station.shelf.files path).elim (.error .notFound) .ok, station) := rfl
  unfold SettingsFile.text? FileSystem.readText text?
  rw [ActionE.run_bind, leads]
  cases content : station.shelf.files path with
  | none => rfl
  | some bytes =>
    rw [content] at reads
    dsimp only
    rw [if_pos (by rfl), ActionE.run_bind, ActionE.run_mapError, ActionE.run_bind, reads]
    dsimp only [Option.elim]
    cases String.fromUTF8? bytes <;> rfl

/-- The settings in a file; a missing one holds none. -/
def settings : Except Failure LegacySettings :=
  match station.text? path with
  | .error failure => .error failure
  | .ok none => .ok {}
  | .ok (some text) =>
    (LegacySettings.ofDocument text).mapError fun fault => .legacy (.malformed fault)

theorem run_read : (settingsFile path).read.run station = (station.settings path, station) := by
  unfold SettingsFile.read settings
  rw [ActionE.run_bind, run_text?]
  cases station.text? path with
  | error failure => rfl
  | ok found =>
    cases found with
    | none => rfl
    | some text =>
      dsimp only
      cases LegacySettings.ofDocument text <;> rfl

theorem text_of_settings {found : LegacySettings} (read : station.settings path = .ok found)
    (nonempty : found ≠ {}) :
    ∃ text, station.shelf.files path = some text.toUTF8 ∧
      LegacySettings.ofDocument text = .ok found := by
  unfold settings at read
  split at read
  · cases read
  · cases read
    exact absurd rfl nonempty
  · rename_i text there
    exact ⟨text, content_of_text? path station there, ActionE.mapError_eq_ok.mp read⟩

/-- The station with another content in one file. -/
def holding (content : ByteArray) : Workstation :=
  { station with shelf := station.shelf.holding path (some content) }

theorem run_clear {text : String} {document : Toml.Entries}
    (content : station.shelf.files path = some text.toUTF8)
    (parsed : Toml.parse text = some document) :
    (settingsFile path).clear.run station =
      (.ok (), station.holding path (Toml.print (LegacySettings.clearFrom document)).toUTF8) := by
  unfold SettingsFile.clear SettingsFile.document?
  rw [ActionE.run_bind, ActionE.run_bind, run_text?, text?_of_content path station content]
  dsimp only
  rw [parsed]
  rfl

end Settings

section Legacy

variable (cipher : Cipher) (replies : Replies) (environment : Environment) (config : Config)
  (station : Workstation)

/-- What the program reads of a legacy account. -/
def legacy : Except Failure LegacyCredential :=
  (station.settings (config.settingsPath environment)).map fun settings =>
    .ofParts settings (station.shelf.secrets.get? legacySecretKey)

theorem run_getSecret {key : String} (valid : SecretKey.Valid key) :
    (secrets.get key).run station = (.ok (station.shelf.secrets.get? key), station) := by
  have ran := station.shelf.secrets.run_get key
  rw [SecretKey.require_of_valid valid] at ran
  change (((SecretTable.store.get key).run station.shelf.secrets).1,
    { station with shelf := { station.shelf with
      secrets := ((SecretTable.store.get key).run station.shelf.secrets).2 } }) = _
  rw [ran]
  rfl

def keeping (key : String) (value : Option String) : Workstation :=
  { station with shelf := { station.shelf with secrets := station.shelf.secrets.put key value } }

theorem run_setSecret {key : String} (value : Option String) (valid : SecretKey.Valid key) :
    (secrets.set key value).run station = (.ok (), station.keeping key value) := by
  have ran := station.shelf.secrets.run_set key value
  rw [SecretKey.require_of_valid valid] at ran
  change (((SecretTable.store.set key value).run station.shelf.secrets).1,
    { station with shelf := { station.shelf with
      secrets := ((SecretTable.store.set key value).run station.shelf.secrets).2 } }) = _
  rw [ran]
  rfl

theorem valid_legacySecretKey : SecretKey.Valid legacySecretKey := by
  decide +kernel

theorem run_readSnapshot :
    (installation cipher replies environment config).migration.legacy.readSnapshot.run station =
      (station.legacy environment config, station) := by
  have reads : (installation cipher replies environment config).migration.legacy.settings.read.run
      station = _ := run_read (config.settingsPath environment) station
  have secret := station.run_getSecret valid_legacySecretKey
  unfold legacy
  rw [LegacyStore.run_readSnapshot, reads]
  cases station.settings (config.settingsPath environment) with
  | error failure => rfl
  | ok settings =>
    dsimp only
    rw [show ((installation cipher replies environment config).migration.legacy.secrets.get
      legacySecretKey).run station = _ from secret]
    rfl

end Legacy

/-! ## Somebody at the terminal -/

/-- A station where somebody attends, is going to type something, and found this on the shelf. -/
structure At (shelf : Shelf) (typed : List Typed) (station : Workstation) : Prop where
  shelf : station.shelf = shelf
  typed : station.terminal.pending = typed
  attended : station.terminal.attended = true

/-- The station after something was put on the terminal. -/
def emitting (station : Workstation) (piece : Output) : Workstation :=
  { station with terminal := station.terminal.emit piece }

section At

variable {shelf : Shelf} {typed : List Typed} {station : Workstation}

theorem At.emit (here : station.At shelf typed) (piece : Output) :
    (station.emitting piece).At shelf typed :=
  ⟨here.shelf, here.typed, here.attended⟩

theorem At.record (here : station.At shelf typed) (entry : JournalEntry) :
    (Journal.record entry station).At shelf typed := by
  have turns := (Terminal.Turns.refl station.terminal).record entry
  exact ⟨here.shelf, turns.pending.trans here.typed, turns.attended.trans here.attended⟩

end At

end Workstation

end AccountKeeper
