import AccountKeeper.Journal

/-!
# Stores of accounts

A store lists accounts and binds a token to each of them.
-/

set_option autoImplicit false

namespace AccountKeeper

structure AccountStore (σ : Type) where
  /-- All accounts, in the order in which they were added. -/
  list : Action σ (List Account)
  add : Account → String → Action σ Unit
  setToken : AccountId → String → Action σ Unit

def AccountStore.on {σ τ : Type} (part : Part σ τ) (store : AccountStore τ) : AccountStore σ where
  list := part.lift store.list
  add account token := part.lift (store.add account token)
  setToken id token := part.lift (store.setToken id token)

end AccountKeeper
