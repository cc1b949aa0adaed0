import AccountKeeper.Config
import AccountKeeper.Http
import AccountKeeper.JsonValue
import AccountKeeper.Validator

/-!
# Who am I

A server tells which login a token belongs to.  `Identity.resolver` asks it over
a network; `Identity.verdict` says what each outcome of the exchange means.
-/

set_option autoImplicit false

namespace AccountKeeper

structure LookupClient where
  userAgent : String := defaultUserAgent
  timeout : Nat := 30000
  deriving DecidableEq, Repr

def LookupSettings.client (settings : LookupSettings) : LookupClient where
  userAgent := settings.agent
  timeout := settings.timeoutSeconds * 1000

namespace Identity

def address (server : ServerAddress) : String :=
  server.apiUrl ++ "/user"

def redirectionLimit : Nat := 10

/--
The request of a lookup.  Name and password of the address go into the request
and not into the address it is sent to.
-/
def request? (client : LookupClient) (server : ServerAddress) (secret : String) :
    Except HttpFault HttpRequest :=
  match Url.parse (address server) with
  | none => .error .unwritable
  | some url =>
    if isHeaderText secret ∧ isHeaderText client.userAgent then
      let rest : HttpRequest :=
        { url
          authorizations := [.token secret]
          accept := "application/vnd.github+json"
          userAgent := client.userAgent
          timeout := client.timeout }
      match url.login? with
      | none => .ok rest
      | some (username, password) =>
        .ok { rest with
          url := url.withoutCredentials
          authorizations := .basic username password :: rest.authorizations }
    else .error .unwritable

/-! ## What an outcome means -/

/--
The login in the description of a user: the member `login`, which must be there
just once.  A description may also be the list of its only member.
-/
def login? : JsonValue → Option String
  | .object members =>
    if members.all (·.1.isSome) then
      match members.filter (·.1 = some "login") with
      | [(_, .string (some login))] => some login
      | _ => none
    else none
  | .array [.string (some login)] => some login
  | _ => none

def statusFailure (server : ServerAddress) (status : Nat) : LookupFailure :=
  if status = 401 then
    .authentication
      ("GitHub rejected the token for " ++ server.display ++ " (HTTP 401). " ++
        "Suggestion: Create a new personal access token and enter it here.")
  else if status = 403 then
    .authentication
      ("GitHub refused access for " ++ server.display ++ " (HTTP 403). " ++
        "Suggestion: Check the token's scopes, or wait if the rate limit was exceeded.")
  else if status = 404 then
    .unexpectedResponse
      ("No GitHub API found at " ++ server.apiUrl ++ " (HTTP 404). " ++
        "Suggestion: Check that the server address is correct.")
  else if 500 ≤ status ∧ status ≤ 599 then
    .network
      ("GitHub server error for " ++ server.display ++ " (HTTP " ++ Nat.repr status ++ "). " ++
        "Suggestion: The server may be experiencing issues. Try again later.")
  else
    .network ("GitHub HTTP error for " ++ server.display ++ " (HTTP " ++ Nat.repr status ++ ")")

def exchangeFailure (server : ServerAddress) (fault : HttpFault) : LookupFailure :=
  match fault with
  | .timedOut =>
    .network
      ("Timed out contacting " ++ server.display ++ ". Suggestion: Check your network connection.")
  | .unwritable => .invalidServer (server.display ++ ": " ++ fault.message)
  | .unusable _ => .invalidServer (server.display ++ ": " ++ fault.message)
  | _ =>
    .network
      ("Failed to contact " ++ server.display ++ ": " ++ fault.message ++ ". " ++
        "Suggestion: Check your network connection and the server address.")

def unreadableUser (server : ServerAddress) : LookupFailure :=
  .unexpectedResponse
    ("GitHub identity lookup on " ++ server.display ++ " returned an unreadable user: " ++
      "error decoding response body. " ++
      "Suggestion: Check that the server is a GitHub or GitHub Enterprise instance.")

def emptyLogin (server : ServerAddress) : LookupFailure :=
  .unexpectedResponse
    ("GitHub identity lookup on " ++ server.display ++ " returned an empty login")

def verdict (server : ServerAddress) : Except HttpFault HttpReply → Except LookupFailure String
  | .error fault => .error (exchangeFailure server fault)
  | .ok reply =>
    if reply.isSuccess then
      match (reply.body.bind JsonValue.read).bind login? with
      | none => .error (unreadableUser server)
      | some login => if login = "" then .error (emptyLogin server) else .ok login
    else .error (statusFailure server reply.status)

/-! ## The lookup -/

variable {σ : Type} [Journal σ]

def lookup (network : Network σ) (client : LookupClient) (server : ServerAddress)
    (secret : String) : StateM σ (Except LookupFailure String × Nat) := do
  Journal.debug .identity ("Resolving identity at " ++ address server)
  let (outcome, duration) ←
    match request? client server secret with
    | .error fault => pure (.error fault, 0)
    | .ok request => network.fetch redirectionLimit request
  let result := verdict server outcome
  match result with
  | .ok login =>
    Journal.debug .identity ("Token on " ++ server.display ++ " belongs to " ++ login)
  | .error _ => pure ()
  return (result, duration)

def resolver (network : Network σ) (client : LookupClient) : Resolver σ where
  lookup server secret := do
    let (result, duration) ← lookup network client server secret
    return ⟨.value result, duration⟩

end Identity

end AccountKeeper
