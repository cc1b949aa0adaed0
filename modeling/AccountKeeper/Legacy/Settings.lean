import AccountKeeper.Journal

/-!
# Legacy settings

Older installations knew one account only: a host, a login and a way to
authenticate, kept apart from the secret.
-/

set_option autoImplicit false

namespace AccountKeeper

inductive AuthMode where
  /-- Authentication was never configured. -/
  | none
  | basic
  | token
  deriving DecidableEq, Repr, Inhabited

namespace AuthMode

def name : AuthMode → String
  | none => "none"
  | basic => "basic"
  | token => "token"

def label : AuthMode → String
  | none => "None"
  | basic => "Basic"
  | token => "Token"

def names : List (String × AuthMode) :=
  [none, basic, token].map fun mode => (mode.name, mode)

end AuthMode

structure LegacySettings where
  host : Option String := Option.none
  login : Option String := Option.none
  authMode : AuthMode := .none
  deriving DecidableEq, Repr

structure LegacySettingsStore (σ : Type) where
  read : Action σ LegacySettings
  clear : Action σ Unit

def LegacySettingsStore.on {σ τ : Type} (part : Part σ τ) (store : LegacySettingsStore τ) :
    LegacySettingsStore σ where
  read := part.lift store.read
  clear := part.lift store.clear

structure SettingsRecord where
  settings : LegacySettings
  clears : Nat := 0
  failReads : Bool := false
  deriving DecidableEq, Repr

def SettingsRecord.store : LegacySettingsStore SettingsRecord where
  read := do
    let record ← get
    if record.failReads then throw (.legacy (.unreadable (.other "settings unavailable")))
    return record.settings
  clear := modify fun record => { record with settings := {}, clears := record.clears + 1 }

end AccountKeeper
