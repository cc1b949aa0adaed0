import AccountKeeper.LoginForm
import AccountKeeper.Terminal
import AccountKeeper.Validator

/-!
# Logging in at a terminal

The login form as a sequence of questions.  A token that was typed is checked
with the server before it is accepted, and the login that the server reports
names the account.  A stored token whose check failed may be checked once more.
-/

set_option autoImplicit false

namespace AccountKeeper

structure TerminalLogin (σ : Type) where
  terminal : Part σ Terminal
  resolver : Resolver σ

namespace TerminalLogin

variable {σ : Type}

def say (login : TerminalLogin σ) (text : String) : StateM σ Unit :=
  login.terminal.liftState (Terminal.asideLine text)

/-- The token to check next: the stored one if it is to be tried again, else one that is typed. -/
def nextToken (login : TerminalLogin σ) (stored : Option String) : StateM σ (Option String) :=
  login.terminal.liftState do
    match stored with
    | none => Terminal.askToken
    | some token => if ← Terminal.askRetry then return some token else Terminal.askToken

def complaint : LookupFailure → String
  | .cancelled => "Token check cancelled"
  | failure => failure.message

/-- Checks tokens until one is accepted or none is left; `fuel` bounds the number of checks. -/
def checkTokens [Journal σ] (login : TerminalLogin σ) (server : ServerAddress) :
    Nat → Option String → StateM σ (Option ConfirmedLogin)
  | 0, _ => return none
  | fuel + 1, stored => do
    match ← login.nextToken stored with
    | none => return none
    | some token =>
      let indicator := Terminal.indicator.on login.terminal
      match ← login.resolver.validate .interactive indicator server token with
      | .ok name => return some ⟨name, server, token⟩
      | .error failure =>
        login.say ("✗ " ++ complaint failure)
        checkTokens login server fuel none

def retryable (request : LoginRequest) : Option String :=
  if request.error.isSome then request.token else none

def introduce (login : TerminalLogin σ) (server : ServerAddress) (request : LoginRequest) :
    StateM σ Unit := do
  login.say ""
  match request.message with
  | some message => login.say (message ++ "\n")
  | none => pure ()
  login.say ("Log in to " ++ server.display)
  match request.login with
  | some name => login.say ("Previous login: " ++ name)
  | none => pure ()
  match request.error with
  | some reason => login.say ("✗ " ++ reason)
  | none => pure ()

/-- Every check but the last one that fails takes something that was typed. -/
def checkLimit (terminal : Terminal) : Nat := terminal.pending.length + 1

def ask [Journal σ] (login : TerminalLogin σ) (request : LoginRequest) :
    StateM σ (Option ConfirmedLogin) := do
  if !(← login.terminal.look).attended then
    login.say "Cannot ask for a GitHub token: stdin is not a terminal"
    return none
  match ServerAddress.read request.server with
  | .error failure =>
    login.say ("✗ " ++ failure.message)
    return none
  | .ok server =>
    login.introduce server request
    login.checkTokens server (checkLimit (← login.terminal.look)) (retryable request)

def prompt [Journal σ] (login : TerminalLogin σ) : LoginPrompt σ where
  ask := login.ask

end TerminalLogin

end AccountKeeper
