import AccountKeeper.Legacy.Credential
import AccountKeeper.Secrets.Store

/-!
# The legacy store

Settings and secret of the legacy account as one thing that is read and erased
together.
-/

set_option autoImplicit false

namespace AccountKeeper

def legacySecretKey : String := "GITHUB_SETTINGS_PASSWORD_KEY"

structure LegacyStore (σ : Type) where
  settings : LegacySettingsStore σ
  secrets : SecretStore σ

namespace LegacyStore

variable {σ : Type}

def readSnapshot (store : LegacyStore σ) : Action σ LegacyCredential := do
  let settings ← store.settings.read
  let secret ← store.secrets.get legacySecretKey
  return .ofParts settings secret

/-- Erases the settings and then the secret. -/
def clear [Journal σ] (store : LegacyStore σ) : Action σ Unit := do
  store.settings.clear
  store.secrets.set legacySecretKey none
  Journal.debug .legacy "Cleared legacy auth settings and secret"

end LegacyStore

end AccountKeeper
