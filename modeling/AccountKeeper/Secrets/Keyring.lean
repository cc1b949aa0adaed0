import AccountKeeper.Secrets.Store

/-!
# Secrets in the keyring of the system

A keyring holds passwords under the name of a service and of a user; the key of
a secret stands for the user.
-/

set_option autoImplicit false

namespace AccountKeeper

inductive KeyringFault where
  | noEntry
  | other (reason : String)
  deriving DecidableEq, Repr

structure Keyring (σ : Type) where
  access : String → String → ActionE String σ Unit
  getPassword : String → String → ActionE KeyringFault σ String
  setPassword : String → String → String → ActionE KeyringFault σ Unit
  deletePassword : String → String → ActionE KeyringFault σ Unit

namespace Keyring

variable {σ : Type}

def noService : String :=
  "Platform secure storage failure: no secret service provider or dbus session found"

/-- The keyring of a system without a keyring service: every operation on an entry fails. -/
def absent : Keyring σ where
  access _ _ := return ()
  getPassword _ _ := throw (.other noService)
  setPassword _ _ _ := throw (.other noService)
  deletePassword _ _ := throw (.other noService)

def probe (keyring : Keyring σ) (service : String) : Action σ Unit :=
  (keyring.access service "availability_check").mapError fun reason =>
    .credential (.keyringUnavailable ("OS keyring not accessible: " ++ reason))

def entry (keyring : Keyring σ) (service key : String) : Action σ Unit := do
  SecretKey.require key
  (keyring.access service key).mapError fun reason => .credential (.keyringUnavailable reason)

def get [Journal σ] (keyring : Keyring σ) (service key : String) :
    Action σ (Option String) := do
  keyring.entry service key
  match ← (keyring.getPassword service key).attempt with
  | .ok secret =>
    Journal.debug .credentials ("Retrieved secret " ++ service ++ "." ++ key ++ " from OS keyring")
    return some secret
  | .error .noEntry => return none
  | .error (.other reason) => throw (.credential (.keyring reason))

def reasonOf : KeyringFault → String
  | .noEntry => "No matching entry found in secure storage"
  | .other reason => reason

def set [Journal σ] (keyring : Keyring σ) (service key : String) (value : Option String) :
    Action σ Unit := do
  keyring.entry service key
  let name := service ++ "." ++ key
  match value with
  | some secret =>
    (keyring.setPassword service key secret).mapError fun fault =>
      .credential (.keyring (reasonOf fault))
    Journal.debug .credentials ("Stored secret " ++ name ++ " in OS keyring")
  | none =>
    match ← (keyring.deletePassword service key).attempt with
    | .ok () => Journal.debug .credentials ("Deleted secret " ++ name ++ " from OS keyring")
    | .error .noEntry =>
      Journal.debug .credentials ("Secret " ++ name ++ " not found (already deleted)")
    | .error (.other reason) => throw (.credential (.keyring reason))

def store [Journal σ] (keyring : Keyring σ) (service : String) : SecretStore σ where
  get := keyring.get service
  set := keyring.set service
  name := "keyring"

end Keyring

end AccountKeeper
