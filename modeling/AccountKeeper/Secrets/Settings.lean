import AccountKeeper.Environment

/-!
# Settings of the stores of secrets

Where secrets are kept, as the configuration says.
-/

set_option autoImplicit false

namespace AccountKeeper

inductive StorageKind where
  | keyring
  | encrypted
  deriving DecidableEq, Repr

namespace StorageKind

def name : StorageKind → String
  | keyring => "keyring"
  | encrypted => "encrypted"

def names : List (String × StorageKind) :=
  [keyring, encrypted].map fun kind => (kind.name, kind)

end StorageKind

structure SecretSettings where
  storage : StorageKind := .keyring
  path : String := "~/.config/gh-accounts/credentials"
  /-- The master password, which no file holds. -/
  masterPassword : Option String := none
  deriving DecidableEq, Repr

namespace SecretSettings

def directory (settings : SecretSettings) (environment : Environment) : String :=
  environment.expand settings.path

def passwordVariable : String := "GH_ACCOUNTS_MASTER_PASSWORD"

/-- The master password of the environment, unless it is empty. -/
def givenPassword? (environment : Environment) : Option String :=
  (environment.get? passwordVariable).filter (· ≠ "")

end SecretSettings

end AccountKeeper
