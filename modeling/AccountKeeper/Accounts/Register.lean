import AccountKeeper.Accounts.Document
import AccountKeeper.Accounts.Store
import AccountKeeper.Files.System
import AccountKeeper.Secrets.Store

/-!
# The register of accounts

The accounts are listed in a file, their tokens lie in a store of secrets.  A
register holds the list in memory as well and writes the whole file whenever
the list grows.  Where the file cannot be written, the account is taken off the
list again and its token is erased.
-/

set_option autoImplicit false

namespace AccountKeeper

structure AccountRegister (σ : Type) where
  files : FileSystem σ
  path : String
  secrets : SecretStore σ
  listed : Part σ (List Account)

namespace AccountRegister

variable {σ : Type}

def fileMode : Nat := 0o644

def readFile (register : AccountRegister σ) : Action σ (Option (List Account)) := do
  if ← register.files.leads register.path then
    let text ← (register.files.readText register.path).mapError fun fault =>
      .account (.stateFile (.read fault))
    match AccountDocument.read text with
    | .ok accounts => return some accounts
    | .error fault => throw (.account (.stateFile (.corrupted register.path fault)))
  else
    return none

/-- Starts with the accounts of the file; a missing file lists none. -/
def load (register : AccountRegister σ) : Action σ Unit := do
  let accounts ← register.readFile
  register.listed.assign (accounts.getD [])

def save (register : AccountRegister σ) (accounts : List Account) : Action σ Unit := do
  (register.files.makeParents register.path).mapError fun fault =>
    .account (.stateFile (.directory fault))
  (register.files.writeText register.path (AccountDocument.print accounts)).mapError fun fault =>
    .account (.stateFile (.write fault))
  (register.files.setMode register.path fileMode).mapError fun fault =>
    .account (.stateFile (.permissions fault))

def accounts (register : AccountRegister σ) : Action σ (List Account) :=
  register.listed.look

def token (register : AccountRegister σ) (id : AccountId) : Action σ (Option String) :=
  register.secrets.get id.secretKey

/-- Undoes an addition whose list could not be written. -/
def rollBack [Journal σ] (register : AccountRegister σ) (before : List Account)
    (account : Account) (cause : Failure) : StateM σ Unit := do
  register.listed.assign before
  Journal.note .accounts .warn
    ("Failed to persist account " ++ account.display ++ ", rolling back: " ++ cause.message)
  match ← (register.secrets.set account.id.secretKey none).outcome with
  | .ok () => return ()
  | .error cleanup =>
    Journal.note .accounts .warn ("Failed to erase token after rollback: " ++ cleanup.message)

/-- Adds an account with its token; without a written list the token is erased again. -/
def add [Journal σ] (register : AccountRegister σ) (account : Account) (token : String) :
    Action σ Unit := do
  Login.require account.login
  let before ← register.accounts
  if before.any fun other =>
      other.id = account.id || other.isSameIdentity account.login account.server then
    throw (.account (.duplicate account.login account.server.display))
  register.secrets.set account.id.secretKey (some token)
  let after := before ++ [account]
  register.listed.assign after
  match ← (register.save after).attempt with
  | .ok () => Journal.debug .accounts ("Registered account " ++ account.display)
  | .error failure =>
    register.rollBack before account failure
    throw failure

def setToken (register : AccountRegister σ) (id : AccountId) (token : String) :
    Action σ Unit := do
  if (← register.accounts).any (·.id = id) then
    register.secrets.set id.secretKey (some token)
  else
    throw (.account (.notFound id.display))

def store [Journal σ] (register : AccountRegister σ) : AccountStore σ where
  list := register.accounts
  add := register.add
  setToken := register.setToken

end AccountRegister

end AccountKeeper
