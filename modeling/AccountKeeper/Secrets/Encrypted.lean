import AccountKeeper.Files.System
import AccountKeeper.Secrets.Cipher
import AccountKeeper.Secrets.Store
import AccountKeeper.Text.Quoted

/-!
# Secrets in encrypted files

Each secret is a file of its own in one directory, sealed under the master
password.  The name of the file is made of the name of the service and the key.
-/

set_option autoImplicit false

namespace AccountKeeper

structure EncryptedStore (σ : Type) where
  files : FileSystem σ
  directory : String
  service : String
  password : Part σ (Option String)
  cipher : Cipher
  draw : StateM σ Nat

namespace EncryptedStore

variable {σ : Type}

def passwordMinimum : Nat := 8

def fileMode : Nat := 0o600

def pathOf (store : EncryptedStore σ) (key : String) : String :=
  Path.join store.directory (store.service ++ "." ++ key ++ ".age")

def setPassword [Journal σ] (store : EncryptedStore σ) (password : String) : Action σ Unit := do
  if password.utf8ByteSize < passwordMinimum then
    throw (.credential .weakPassword)
  store.password.assign (some password)
  Journal.debug .credentials "Master password set for encrypted file store"

def requirePassword (store : EncryptedStore σ) : Action σ String := do
  match ← (store.password.look : Action σ (Option String)) with
  | some password => return password
  | none => throw (.credential .masterPasswordNotSet)

def onFiles {α : Type} (action : ActionE FileFault σ α) : Action σ α :=
  action.mapError fun fault => .credential (.files fault)

/-- Refuses a path that names a symbolic link. -/
def refuseLink (files : FileSystem σ) (path : String) : Action σ Unit := do
  let linked ← (files.isLink path).mapError fun fault =>
    .credential (.files (.other
      ("Failed to read metadata for '" ++ path ++ "': " ++ fault.message)))
  if linked then
    throw (.credential (.files (.other
      ("Credential file '" ++ path ++
        "' is a symbolic link. Credential files must be regular files."))))

def get [Journal σ] (store : EncryptedStore σ) (key : String) : Action σ (Option String) := do
  SecretKey.require key
  let path := store.pathOf key
  if !(← store.files.leads path) then
    return none
  refuseLink store.files path
  let content ← onFiles (store.files.read path)
  let password ← store.requirePassword
  match store.cipher.decrypt password content with
  | .error failure => throw (.credential failure)
  | .ok text =>
    Journal.debug .credentials
      ("Retrieved encrypted secret " ++ key ++ " from " ++ Text.quoted path)
    return some text

def erase [Journal σ] (store : EncryptedStore σ) (key : String) : Action σ Unit := do
  let path := store.pathOf key
  if ← store.files.leads path then
    onFiles (store.files.remove path)
    Journal.debug .credentials ("Deleted encrypted secret " ++ key ++ " at " ++ Text.quoted path)
  else
    Journal.debug .credentials ("Secret " ++ key ++ " not found (already deleted)")

def put [Journal σ] (store : EncryptedStore σ) (key text : String) : Action σ Unit := do
  let path := store.pathOf key
  let password ← store.requirePassword
  let content := store.cipher.encrypt password (← store.draw) text
  onFiles (store.files.makeDirectories store.directory)
  onFiles (store.files.write path content)
  onFiles (store.files.setMode path fileMode)
  Journal.debug .credentials ("Stored encrypted secret " ++ key ++ " at " ++ Text.quoted path)

def set [Journal σ] (store : EncryptedStore σ) (key : String) (value : Option String) :
    Action σ Unit := do
  SecretKey.require key
  match value with
  | none => store.erase key
  | some text => store.put key text

def store [Journal σ] (store : EncryptedStore σ) : SecretStore σ where
  get := store.get
  set := store.set
  name := "encrypted_file"

end EncryptedStore

end AccountKeeper
