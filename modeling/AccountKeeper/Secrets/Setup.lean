import AccountKeeper.Secrets.Chain
import AccountKeeper.Secrets.Encrypted
import AccountKeeper.Secrets.Keyring
import AccountKeeper.Secrets.Settings

/-!
# Setting up the stores of secrets

The keyring is used where it is configured and can be used.  Encrypted files
are used where they are configured, or in place of an unusable keyring, and
need a master password.
-/

set_option autoImplicit false

namespace AccountKeeper

def serviceName : String := "gh-accounts"

structure SecretBackends (σ : Type) where
  keyring : Keyring σ
  files : FileSystem σ
  password : Part σ (Option String)
  cipher : Cipher
  draw : StateM σ Nat
  /-- Asks for the master password; `none` where nobody can be asked. -/
  askPassword : StateM σ (Option (Except String String))

namespace SecretBackends

variable {σ : Type} [Journal σ]

def encrypted (backends : SecretBackends σ) (directory : String) : EncryptedStore σ where
  files := backends.files
  directory
  service := serviceName
  password := backends.password
  cipher := backends.cipher
  draw := backends.draw

/-- The keyring, if it is configured and can be used. -/
def openKeyring (backends : SecretBackends σ) (settings : SecretSettings) :
    StateM σ (List (SecretStore σ)) := do
  if settings.storage ≠ .keyring then
    return []
  match ← (backends.keyring.probe serviceName).outcome with
  | .ok () =>
    Journal.note .credentials .info "Using OS keyring for credential storage"
    return [backends.keyring.store serviceName]
  | .error failure =>
    Journal.note .credentials .warn
      ("OS keyring unavailable: " ++ failure.message ++ ". Falling back to encrypted files.")
    return []

/-- The master password of the settings, or else the one that the user types. -/
def findPassword (backends : SecretBackends σ) (settings : SecretSettings) :
    StateM σ (Option String) := do
  match settings.masterPassword with
  | some password => return some password
  | none =>
    match ← backends.askPassword with
    | none => return none
    | some (.ok password) =>
      if password ≠ "" then return some password
      Journal.note .credentials .error "Empty master password provided"
      return none
    | some (.error reason) =>
      Journal.note .credentials .error ("Failed to prompt for master password: " ++ reason)
      return none

def openEncrypted (backends : SecretBackends σ) (environment : Environment)
    (settings : SecretSettings) : Action σ (List (SecretStore σ)) := do
  match ← backends.findPassword settings with
  | some password =>
    let store := backends.encrypted (settings.directory environment)
    store.setPassword password
    Journal.note .credentials .info "Using encrypted file storage for credentials"
    return [store.store]
  | none =>
    Journal.note .credentials .error
      "Master password not set and no TTY available. No secure storage available."
    return []

def openChain (backends : SecretBackends σ) (environment : Environment)
    (settings : SecretSettings) : Action σ (SecretChain σ) := do
  let keyring ← backends.openKeyring settings
  let encrypted ←
    if settings.storage = .encrypted ∨ keyring.isEmpty then
      backends.openEncrypted environment settings
    else
      pure []
  SecretChain.ofStores (keyring ++ encrypted)

end SecretBackends

end AccountKeeper
