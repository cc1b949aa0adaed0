import AccountKeeper.Legacy.Settings
import AccountKeeper.Text.Quoted

/-!
# The legacy credential

Settings and secret of the legacy account, read together, and what they amount
to.
-/

set_option autoImplicit false

namespace AccountKeeper

structure LegacyCredential where
  host : Option String
  login : Option String
  authMode : AuthMode
  secret : Option String
  deriving DecidableEq, Repr

namespace LegacyCredential

def ofParts (settings : LegacySettings) (secret : Option String) : LegacyCredential :=
  ⟨settings.host, settings.login, settings.authMode, secret⟩

def hasAnyInfo (legacy : LegacyCredential) : Bool :=
  legacy.host.isSome || legacy.login.isSome || legacy.authMode ≠ .none || legacy.secret.isSome

/-- Whether there is an account: one with a password needs a login, one with a token does not. -/
def hasLegacyAccount (legacy : LegacyCredential) : Bool :=
  match legacy.authMode with
  | .basic => legacy.login.isSome
  | .token => true
  | .none => false

def hostOrDefault (legacy : LegacyCredential) : String :=
  legacy.host.getD ServerAddress.defaultHost

def readServer (legacy : LegacyCredential) : Except Failure ServerAddress :=
  ServerAddress.readHost legacy.host

def effectiveServer {σ : Type} [Journal σ] (legacy : LegacyCredential) :
    StateM σ (Option ServerAddress) := do
  match legacy.readServer with
  | .ok server => return some server
  | .error failure =>
    Journal.debug .legacy ("Legacy host is not a valid server address: " ++ failure.message)
    return none

/-- What reports show of the credential: all but the secret. -/
def shown (legacy : LegacyCredential) : List (String × Text.Shown) :=
  [("host", .optional legacy.host), ("login", .optional legacy.login),
    ("auth_mode", .word legacy.authMode.label),
    ("has_secret", .word (if legacy.secret.isSome then "true" else "false"))]

def display (legacy : LegacyCredential) : String :=
  Text.showRecord "LegacyCredential" legacy.shown

def displayWide (legacy : LegacyCredential) : String :=
  Text.showRecordWide "LegacyCredential" legacy.shown

end LegacyCredential

end AccountKeeper
