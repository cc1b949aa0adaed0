import AccountKeeper.Secrets.Store

/-!
# Chains of stores

Several stores of secrets behind one another.  A secret is looked up in each of
them in turn, stored in the first one, and erased from all of them.
-/

set_option autoImplicit false

namespace AccountKeeper

structure SecretChain (σ : Type) where
  stores : List (SecretStore σ)

namespace SecretChain

variable {σ : Type}

/-- A chain of stores, of which there must be one. -/
def ofStores (stores : List (SecretStore σ)) : Except Failure (SecretChain σ) :=
  if stores.isEmpty then .error (.credential .noStoreAvailable) else .ok ⟨stores⟩

def names (chain : SecretChain σ) : List String :=
  chain.stores.map (·.name)

def primary? (chain : SecretChain σ) : Option String :=
  chain.names.head?

variable [Journal σ]

/-- The secret in the first of some stores that holds the key. -/
def getFrom (key : String) : List (SecretStore σ) → Action σ (Option String)
  | [] => return none
  | store :: rest => do
    match ← store.get key with
    | some secret =>
      Journal.debug .credentials
        ("Retrieved secret " ++ key ++ " from " ++ store.name ++ " backend")
      return some secret
    | none => getFrom key rest

def get (chain : SecretChain σ) (key : String) : Action σ (Option String) :=
  getFrom key chain.stores

def put (chain : SecretChain σ) (key secret : String) : Action σ Unit := do
  match chain.stores with
  | [] => throw (.credential .noStoreAvailable)
  | store :: _ =>
    store.set key (some secret)
    Journal.debug .credentials ("Stored secret " ++ key ++ " using " ++ store.name ++ " backend")

def eraseFrom (key : String) : List (SecretStore σ) → Action σ Unit
  | [] => return ()
  | store :: rest => do
    store.set key none
    eraseFrom key rest

def set (chain : SecretChain σ) (key : String) (value : Option String) : Action σ Unit := do
  match value with
  | some secret => chain.put key secret
  | none =>
    eraseFrom key chain.stores
    Journal.debug .credentials ("Erased secret " ++ key ++ " from all backends")

def store (chain : SecretChain σ) : SecretStore σ where
  get := chain.get
  set := chain.set
  name := chain.primary?.getD "none"

end SecretChain

end AccountKeeper
