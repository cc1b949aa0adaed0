import AccountKeeper.Association
import AccountKeeper.Journal

/-!
# Stores of secrets

A store of secrets holds texts under keys.  `SecretStore` is what all of them
offer; `SecretTable` is one that is kept in memory.
-/

set_option autoImplicit false

namespace AccountKeeper

structure SecretStore (σ : Type) where
  get : String → Action σ (Option String)
  /-- Stores a secret under a key, or erases the key. -/
  set : String → Option String → Action σ Unit
  name : String

def SecretStore.on {σ τ : Type} (part : Part σ τ) (store : SecretStore τ) : SecretStore σ where
  get key := part.lift (store.get key)
  set key value := part.lift (store.set key value)
  name := store.name

structure SecretTable where
  entries : List (String × String) := []
  writes : Nat := 0
  deriving DecidableEq, Repr

namespace SecretTable

def get? (table : SecretTable) (key : String) : Option String :=
  table.entries.lookup key

def put (table : SecretTable) (key : String) (value : Option String) : SecretTable where
  entries :=
    let others := table.entries.filter (·.1 ≠ key)
    match value with
    | some text => (key, text) :: others
    | none => others
  writes := table.writes + 1

theorem get?_put (table : SecretTable) (key other : String) (value : Option String) :
    (table.put key value).get? other = if other = key then value else table.get? other := by
  have others := Association.lookup_without key other table.entries
  cases value with
  | none => exact others
  | some text =>
    rw [get?, put, Association.lookup_front, others]
    by_cases same : other = key <;> simp [same, get?]

/-- A table as a store; other texts than keys are refused. -/
def store : SecretStore SecretTable where
  get key := do
    SecretKey.require key
    return (← get).get? key
  set key value := do
    SecretKey.require key
    modify (·.put key value)
  name := "memory"

end SecretTable

end AccountKeeper
