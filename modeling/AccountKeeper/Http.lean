import AccountKeeper.Action
import AccountKeeper.Url

/-!
# Exchanges over the web

Requests and what comes back for them.  `Network.fetch` sends a request and
follows redirections, a bounded number of times; secrets are not passed on to
another host.
-/

set_option autoImplicit false

namespace AccountKeeper

/-- Whether a text can be the value of a header: no controls but tabs. -/
def isHeaderText (text : String) : Bool :=
  text.all fun c => c = '\t' || (0x20 ≤ c.toNat && c ≠ '\x7F')

inductive Authorization where
  | basic (username : String) (password : Option String)
  | token (secret : String)
  deriving DecidableEq, Repr

structure HttpRequest where
  url : Url
  authorizations : List Authorization
  accept : String
  userAgent : String
  timeout : Nat
  deriving DecidableEq, Repr

structure HttpReply where
  status : Nat
  location : Option String
  /-- The bytes of the body; `none` if it did not arrive in whole. -/
  body : Option (List UInt8)
  deriving DecidableEq, Repr

inductive HttpOutcome where
  | answered (reply : HttpReply)
  | broken
  | timedOut
  deriving DecidableEq, Repr

inductive HttpFault where
  | unwritable
  | unusable (address : String)
  | notSent (address : String)
  | tooManyRedirections (address : String)
  | timedOut
  deriving DecidableEq, Repr

namespace HttpFault

def message : HttpFault → String
  | unwritable => "builder error"
  | unusable address => "builder error for url (" ++ address ++ ")"
  | notSent address => "error sending request for url (" ++ address ++ ")"
  | tooManyRedirections address => "error following redirect for url (" ++ address ++ ")"
  | timedOut => "operation timed out"

end HttpFault

/-- Sends single requests; the number counts the milliseconds until the outcome is known. -/
structure Network (σ : Type) where
  send : HttpRequest → StateM σ (HttpOutcome × Nat)

namespace HttpReply

def isSuccess (reply : HttpReply) : Bool :=
  200 ≤ reply.status && reply.status < 300

def redirectionStatuses : List Nat := [301, 302, 303, 307, 308]

def redirection? (reply : HttpReply) (source : Url) : Option Url.Reading :=
  match reply.location with
  | none => none
  | some location =>
    if reply.status ∈ redirectionStatuses then
      match source.join location with
      | .invalid => none
      | target => some target
    else none

end HttpReply

namespace HttpRequest

def addressLimit : Nat := 65534

def isUsable (url : Url) : Bool :=
  url.host.display.all (fun c => c ∉ ['"', '\x60', '\x7b', '\x7d']) &&
    url.display.length ≤ addressLimit

/-- The request for another address; another host or port gets no secrets. -/
def redirect (request : HttpRequest) (target : Url) : HttpRequest :=
  let same := target.host = request.url.host ∧ target.effectivePort = request.url.effectivePort
  { request with
    url := target
    authorizations := if same then request.authorizations else [] }

end HttpRequest

namespace Network

variable {σ : Type}

def unreachable : Network σ where
  send _ := return (.broken, 0)

def on {τ : Type} (part : Part σ τ) (network : Network τ) : Network σ where
  send request := part.liftState (network.send request)

/--
Sends a request and follows up to `limit` redirections.  The number counts the
milliseconds of all exchanges.
-/
def fetch (network : Network σ) : Nat → HttpRequest → StateM σ (Except HttpFault HttpReply × Nat)
  | limit, request => do
    let address := request.url.display
    if !HttpRequest.isUsable request.url then
      return (.error (.unusable address), 0)
    let (outcome, duration) ← network.send request
    match outcome with
    | .broken => return (.error (.notSent address), duration)
    | .timedOut => return (.error .timedOut, duration)
    | .answered reply =>
      match reply.redirection? request.url with
      | none => return (.ok reply, duration)
      | some (.address target) =>
        match limit with
        | 0 => return (.error (.tooManyRedirections address), duration)
        | limit + 1 =>
          let (result, more) ← fetch network limit (request.redirect target)
          return (result, duration + more)
      | some (.foreign target) => return (.error (.unusable target), duration)
      | some .invalid => return (.ok reply, duration)

end Network

end AccountKeeper
