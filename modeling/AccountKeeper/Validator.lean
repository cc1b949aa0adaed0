import AccountKeeper.Progress

/-!
# Checking tokens

A token is checked by asking its server for the login that it belongs to, while
the user waits under a progress indicator.
-/

set_option autoImplicit false

namespace AccountKeeper

structure Resolver (σ : Type) where
  lookup : ServerAddress → String → StateM σ (BackgroundTask (Except LookupFailure String))

def Resolver.on {σ τ : Type} (part : Part σ τ) (resolver : Resolver τ) : Resolver σ where
  lookup server token := part.liftState (resolver.lookup server token)

def validationTitle : String := "Accessing GitHub"

def LookupFailure.ofWait (server : ServerAddress) :
    Except Interrupted (Except LookupFailure String) → Except LookupFailure String
  | .ok answer => answer
  | .error .cancelled => .error .cancelled
  | .error .wrongThread =>
    .error (.unexpectedResponse "Identity lookup was started from inside the async runtime")
  | .error (.failed reason) =>
    .error (.unexpectedResponse
      ("Identity lookup on " ++ server.display ++ " did not finish: " ++ reason))

def Resolver.validate {σ : Type} [Journal σ] (resolver : Resolver σ) (caller : Caller)
    (indicator : Indicator σ) (server : ServerAddress) (token : String) :
    StateM σ (Except LookupFailure String) := do
  let result ← indicator.await caller validationTitle (resolver.lookup server token)
  return LookupFailure.ofWait server result

end AccountKeeper
