import AccountKeeper.Accounts.Store

/-!
# Accounts in memory

A store that keeps each account next to its token.
-/

set_option autoImplicit false

namespace AccountKeeper

structure AccountTable where
  entries : List (Account × String) := []
  readOnly : Bool := false
  deriving DecidableEq, Repr

namespace AccountTable

def accounts (table : AccountTable) : List Account :=
  table.entries.map (·.1)

/-- The token of the first account with a login. -/
def tokenOf? (table : AccountTable) (login : String) : Option String :=
  (table.entries.find? fun entry => entry.1.login = login).map (·.2)

def hasIdentity (table : AccountTable) (login : String) (server : ServerAddress) : Bool :=
  table.entries.any fun entry => entry.1.isSameIdentity login server

/-- Puts a token in place of the one of the first account with an identifier. -/
def replaceToken (id : AccountId) (token : String) :
    List (Account × String) → List (Account × String)
  | [] => []
  | entry :: rest =>
    if entry.1.id = id then (entry.1, token) :: rest else entry :: replaceToken id token rest

def requireWritable (table : AccountTable) : Except Failure Unit :=
  if table.readOnly then .error (.account (.stateFile .readOnly)) else .ok ()

def add (account : Account) (token : String) : Action AccountTable Unit := do
  let table ← get
  table.requireWritable
  Login.require account.login
  if table.hasIdentity account.login account.server then
    throw (.account (.duplicate account.login account.server.display))
  set { table with entries := table.entries ++ [(account, token)] }

def setToken (id : AccountId) (token : String) : Action AccountTable Unit := do
  let table ← get
  table.requireWritable
  if table.entries.any (·.1.id = id) then
    set { table with entries := replaceToken id token table.entries }
  else
    throw (.account (.notFound id.display))

def store : AccountStore AccountTable where
  list := return (← get).accounts
  add := add
  setToken := setToken

end AccountTable

end AccountKeeper
