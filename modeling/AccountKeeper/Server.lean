import AccountKeeper.Scheme
import AccountKeeper.Text.Ascii
import AccountKeeper.Text.Blank
import AccountKeeper.Text.Lowercase
import AccountKeeper.Text.Pieces

/-!
# Server addresses

A server address is what a person types as a host: `github.com`,
`https://ghe.example.com:8443/base`, `http://localhost`.  `ServerAddress.parse`
reads it, `ServerAddress.display` writes the normal form, and
`ServerAddress.apiUrl` is the base of the REST interface of that server.
-/

set_option autoImplicit false

namespace AccountKeeper

structure ServerAddress where
  scheme : Option Scheme
  /-- Lower-case host. -/
  host : String
  port : Option UInt16
  /-- Path below the host: starts with `/` and does not end with one. -/
  suffix : Option String
  deriving DecidableEq, Repr, Inhabited

namespace ServerAddress

def defaultHost : String := "github.com"

def default : ServerAddress := ⟨none, defaultHost, none, none⟩

inductive Fault where
  | unsupportedScheme
  | badPort
  | emptyHost
  | blankInHost
  deriving DecidableEq, Repr

def Fault.reason : Fault → String
  | unsupportedScheme => "only http and https are supported"
  | badPort => "port must be a number between 0 and 65535"
  | emptyHost => "host is empty"
  | blankInHost => "host contains whitespace"

/-! ## Reading -/

/-- The value of a text of decimal digits; `none` for the empty text and for other characters. -/
def decimal? (digits : List Char) : Option Nat :=
  if digits ≠ [] ∧ digits.all Char.isDigit then
    some (digits.foldl (fun value d => value * 10 + (d.toNat - '0'.toNat)) 0)
  else
    none

/-- A port: decimal digits of value below 65536, after an optional plus sign. -/
def port? (text : List Char) : Option UInt16 :=
  let digits :=
    match text with
    | '+' :: rest => rest
    | other => other
  match decimal? digits with
  | none => none
  | some value => if value < 65536 then some value.toUInt16 else none

def readScheme (text : List Char) : Except Fault (Option Scheme × List Char) :=
  match Text.dropHeadIgnoringCase Scheme.https.lead.toList text with
  | some rest => .ok (some .https, rest)
  | none =>
    match Text.dropHeadIgnoringCase Scheme.http.lead.toList text with
    | some rest => .ok (some .http, rest)
    | none =>
      if Text.hasInfix "://".toList text then .error .unsupportedScheme else .ok (none, text)

def readAuthority (authority : List Char) : Except Fault (List Char × Option UInt16) :=
  match Text.splitLast ':' authority with
  | none => .ok (authority, none)
  | some (host, port) =>
    match port? port with
    | none => .error .badPort
    | some value => .ok (host, some value)

/-- The path without its trailing slashes, if anything is left of it. -/
def readSuffix (path : List Char) : Option String :=
  let kept := Text.dropTailWhile (· = '/') path
  if kept = [] then none else some (String.ofList kept)

def parse (input : String) : Except Fault ServerAddress := do
  let (scheme, rest) ← readScheme (Text.trimBlanks input.toList)
  let (host, port) ← readAuthority (rest.takeWhile (· ≠ '/'))
  if host = [] then throw .emptyHost
  if host.any Text.isBlank then throw .blankInHost
  return {
    scheme
    host := String.ofList (Text.lowercase host)
    port
    suffix := readSuffix (rest.dropWhile (· ≠ '/')) }

/-! ## Writing -/

def authorityAndSuffix (server : ServerAddress) : String :=
  server.host ++
    (match server.port with
      | none => ""
      | some port => ":" ++ Nat.repr port.toNat) ++
    server.suffix.getD ""

/-- The normal form of the address, which `parse` reads back but for blanks at the end of the
path. -/
def display (server : ServerAddress) : String :=
  (match server.scheme with
    | none => ""
    | some scheme => scheme.lead) ++ server.authorityAndSuffix

def url (server : ServerAddress) : String :=
  (server.scheme.getD .https).lead ++ server.authorityAndSuffix

def isDefault (server : ServerAddress) : Bool :=
  server.host = defaultHost && server.port.isNone && server.suffix.isNone

/-- Base of the REST interface: a host of its own for the public server, a path for all others. -/
def apiUrl (server : ServerAddress) : String :=
  if server.isDefault then "https://api.github.com" else server.url ++ "/api/v3"

end ServerAddress

end AccountKeeper
