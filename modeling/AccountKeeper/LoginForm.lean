import AccountKeeper.Journal
import AccountKeeper.Text.Quoted

/-!
# The login form

When an account cannot be moved without asking, the user is shown a login form
that is filled in with what is known.  How the form looks is up to the prompt;
this module says what goes into it and what comes back.
-/

set_option autoImplicit false

namespace AccountKeeper

def passwordNotSupported : String :=
  "Password authentication is no longer supported for GitHub.\n" ++
    "Personal access token can be acquired instead."

structure LoginRequest where
  /-- The server as it was configured; the form does not let the user change it. -/
  server : String
  login : Option String
  token : Option String
  error : Option String
  message : Option String
  deriving DecidableEq, Repr

namespace LoginRequest

def afterFailedLookup (server token : String) (failure : LookupFailure) : LoginRequest where
  server
  login := none
  token := some token
  error := some failure.message
  message := none

def forPasswordAccount (server : String) (login password : Option String) : LoginRequest where
  server
  login
  token := password
  error := none
  message := some passwordNotSupported

/-- The request on one line, without the token. -/
def display (request : LoginRequest) : String :=
  Text.showRecord "LoginRequest"
    [("server", .plain request.server), ("login", .optional request.login),
      ("has_token", .word (if request.token.isSome then "true" else "false")),
      ("error", .optional request.error), ("message", .optional request.message)]

end LoginRequest

structure ConfirmedLogin where
  login : String
  server : ServerAddress
  token : String
  deriving DecidableEq, Repr

def ServerAddress.shown (server : ServerAddress) : String :=
  let scheme :=
    match server.scheme with
    | none => "None"
    | some .http => "Some(true)"
    | some .https => "Some(false)"
  let port :=
    match server.port with
    | none => "None"
    | some port => "Some(" ++ Nat.repr port.toNat ++ ")"
  Text.showRecord "ServerPath"
    [("use_http", .word scheme), ("host", .plain server.host), ("port", .word port),
      ("suffix", .optional server.suffix)]

def ConfirmedLogin.display (confirmed : ConfirmedLogin) : String :=
  "ConfirmedLogin \x7b login: " ++ Text.quoted confirmed.login ++ ", server: " ++
    confirmed.server.shown ++ ", .. \x7d"

/-- Shows login forms; `none` means that the user cancelled. -/
structure LoginPrompt (σ : Type) where
  ask : LoginRequest → StateM σ (Option ConfirmedLogin)

def LoginPrompt.request {σ : Type} [Journal σ] (prompt : LoginPrompt σ)
    (request : LoginRequest) : StateM σ (Option ConfirmedLogin) := do
  Journal.debug .reauth ("Requesting credentials for " ++ request.server)
  let answer ← prompt.ask request
  match answer with
  | some confirmed =>
    Journal.debug .reauth ("User confirmed " ++ confirmed.login ++ "@" ++ confirmed.server.display)
  | none => Journal.debug .reauth "User cancelled the login form"
  return answer

end AccountKeeper
