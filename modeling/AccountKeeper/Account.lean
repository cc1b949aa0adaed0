import AccountKeeper.Server
import AccountKeeper.Uuid

/-!
# Accounts

An account is a login on a server, with an identifier of its own under which
its token is kept.
-/

set_option autoImplicit false

namespace AccountKeeper

structure AccountId where
  uuid : Uuid
  deriving DecidableEq, Repr

namespace AccountId

def display (id : AccountId) : String :=
  id.uuid.display

def secretKey (id : AccountId) : String :=
  "account." ++ id.display

end AccountId

structure Account where
  id : AccountId
  login : String
  server : ServerAddress
  deriving DecidableEq, Repr

namespace Account

/-- Whether the account stands for a login, up to ASCII case, on a server. -/
def isSameIdentity (account : Account) (login : String) (server : ServerAddress) : Bool :=
  Text.sameIgnoringCase account.login login && account.server = server

def display (account : Account) : String :=
  account.login ++ "@" ++ account.server.display

end Account

namespace Login

def lengthLimit : Nat := 39

inductive Fault where
  | empty
  | tooLong (length : Nat)
  | outsideAlphabet (login : String)
  | other (text : String)
  deriving DecidableEq, Repr

def Fault.message : Fault → String
  | empty => "Login cannot be empty"
  | tooLong length => "Login too long: " ++ Nat.repr length ++ " characters (max 39)"
  | outsideAlphabet login =>
    "Invalid login '" ++ login ++ "'. Must be alphanumeric with hyphens/underscores only"
  | other text => text

/-- Accepts 1 to 39 ASCII letters, digits, hyphens and underscores. -/
def check (login : String) : Except Fault Unit :=
  if login = "" then .error .empty
  else if lengthLimit < login.length then .error (.tooLong login.length)
  else if login.toList.all Text.isWordChar then .ok ()
  else .error (.outsideAlphabet login)

end Login

end AccountKeeper
