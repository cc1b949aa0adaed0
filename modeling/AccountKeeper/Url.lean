import AccountKeeper.Scheme
import AccountKeeper.Url.Host

/-!
# Addresses on the web

An address of scheme `http` or `https` in parts.  `Url.parse` reads an address as
web browsers do, `Url.join` reads one that may be relative to another one, and
`Url.display` writes the normal form: percent forms where they are needed, no
port that goes without saying, and a path without dots.
-/

set_option autoImplicit false

namespace AccountKeeper

/-- An address in parts; all texts are in their escaped form. -/
structure Url where
  scheme : Scheme
  username : String
  password : Option String
  host : Url.Host
  port : Option UInt16
  path : List String
  query : Option String
  fragment : Option String
  deriving DecidableEq, Repr

namespace Url

/-! ## Reading -/

def endsAuthority (c : Char) : Bool :=
  c = '/' || c = '\\' || c = '?' || c = '#'

def dropSlashes (text : List Char) : List Char :=
  text.dropWhile fun c => c = '/' || c = '\\'

def readCredentials (text : List Char) : String × Option String :=
  let escaped (part : List Char) : String :=
    String.ofList (Percent.encode Percent.credentialSet part)
  match Text.splitFirst ':' text with
  | none => (escaped text, none)
  | some (name, password) =>
    (escaped name, if password = [] then none else some (escaped password))

/-- Splits host and port; colons between brackets belong to the host. -/
def splitPort : Bool → List Char → List Char × Option (List Char)
  | _, [] => ([], none)
  | bracketed, c :: rest =>
    if c = ':' ∧ !bracketed then ([], some rest)
    else
      let inside := if c = '[' then true else if c = ']' then false else bracketed
      let (host, port) := splitPort inside rest
      (c :: host, port)

/-- A port of a scheme; none is meant by the empty text and by the port that goes without saying. -/
def readPort (scheme : Scheme) (digits : List Char) : Option (Option UInt16) :=
  if digits.all Char.isDigit then
    match Host.natOfDigits? 10 digits with
    | none => none
    | some value =>
      if 65535 < value then none
      else if digits = [] ∨ value = scheme.defaultPort then some none
      else some (some value.toUInt16)
  else none

def dots : List (List Char) := [['.'], ['%', '2', 'e']]

def isSingleDot (segment : List Char) : Bool :=
  dots.contains (segment.map Char.toLower)

def isDoubleDot (segment : List Char) : Bool :=
  let small := segment.map Char.toLower
  dots.any fun first => dots.any fun second => small = first ++ second

/-- Puts segments behind those of a path, which stands with its last segment in front.  A step up at
the top leads nowhere. -/
def readSegments : List String → List (List Char) → List String
  | above, [] => above
  | above, segment :: rest =>
    if isDoubleDot segment then
      if rest = [] then "" :: above.tail else readSegments above.tail rest
    else if isSingleDot segment then
      if rest = [] then "" :: above else readSegments above rest
    else
      readSegments (String.ofList (Percent.encode Percent.pathSet segment) :: above) rest

def readRest (text : List Char) : Option String × Option String :=
  let query := text.takeWhile (· ≠ '#')
  let fragment := text.drop (query.length + 1)
  (match query with
    | '?' :: inner => some (String.ofList (Percent.encode Percent.querySet inner))
    | _ => none,
   if query.length < text.length then
     some (String.ofList (Percent.encode Percent.fragmentSet fragment))
   else none)

def inPath (c : Char) : Bool := c ≠ '?' && c ≠ '#'

def pathPieces (path : List Char) : List (List Char) :=
  Text.pieces '/' (path.map fun c => if c = '\\' then '/' else c)

def withPath (url : Url) (above : List String) (text : List Char) : Url :=
  let path := text.takeWhile inPath
  let (query, fragment) := readRest (text.dropWhile inPath)
  { url with path := (readSegments above.reverse (pathPieces path)).reverse, query, fragment }

def dropSlash : List Char → List Char
  | c :: rest => if c = '/' ∨ c = '\\' then rest else c :: rest
  | [] => []

def readAuthority (scheme : Scheme) (text : List Char) : Option Url :=
  let authority := text.takeWhile (!endsAuthority ·)
  let (credentials, place) := (Text.splitLast '@' authority).getD ([], authority)
  let (username, password) := readCredentials credentials
  let (name, digits) := splitPort false place
  match Host.parse name, readPort scheme (digits.getD []) with
  | some host, some port =>
    let bare : Url := ⟨scheme, username, password, host, port, [], none, none⟩
    some (bare.withPath [] (dropSlash (text.dropWhile (!endsAuthority ·))))
  | _, _ => none

/-- The text without controls and blanks at both ends, and without tabs and line ends. -/
def clean (text : String) : List Char :=
  let isEdge (c : Char) : Bool := c.toNat ≤ 0x20
  let inner := ((text.toList.dropWhile isEdge).reverse.dropWhile isEdge).reverse
  inner.filter fun c => c ≠ '\t' && c ≠ '\n' && c ≠ '\r'

def readScheme (text : List Char) : Option (String × List Char) :=
  match text with
  | [] => none
  | first :: _ =>
    let name := text.takeWhile fun c => c.isAlphanum || c = '+' || c = '-' || c = '.'
    match text.drop name.length with
    | ':' :: rest =>
      if first.isAlpha then some (String.ofList (name.map Char.toLower), rest) else none
    | _ => none

inductive Reading where
  | address (url : Url)
  | foreign (address : String)
  | invalid
  deriving DecidableEq, Repr

def Reading.ofOption : Option Url → Reading
  | some url => .address url
  | none => .invalid

def readRelative (base : Url) (text : List Char) : Reading :=
  match text with
  | [] => .address { base with fragment := none }
  | '?' :: _ =>
    let (query, fragment) := readRest text
    .address { base with query, fragment }
  | '#' :: _ => .address { base with fragment := (readRest text).2 }
  | c :: rest =>
    if c = '/' ∨ c = '\\' then
      match rest with
      | d :: _ =>
        if d = '/' ∨ d = '\\' then .ofOption (readAuthority base.scheme (dropSlashes rest))
        else .address (base.withPath [] rest)
      | [] => .address (base.withPath [] rest)
    else .address (base.withPath base.path.dropLast text)

def hasTwoSlashes (text : List Char) : Bool :=
  text.length - (dropSlashes text).length ≥ 2

/-- Reads what follows the scheme; without slashes it may be relative to a base of that scheme. -/
def readAfterScheme (base : Option Url) (scheme : Scheme) (text : List Char) : Reading :=
  match base with
  | some base =>
    if base.scheme = scheme ∧ !hasTwoSlashes text then readRelative base text
    else .ofOption (readAuthority scheme (dropSlashes text))
  | none => .ofOption (readAuthority scheme (dropSlashes text))

def read (base : Option Url) (text : String) : Reading :=
  let cleaned := clean text
  match readScheme cleaned with
  | some ("http", rest) => readAfterScheme base .http rest
  | some ("https", rest) => readAfterScheme base .https rest
  | some _ => .foreign (String.ofList cleaned)
  | none =>
    match base with
    | some base => readRelative base cleaned
    | none => .invalid

def parse (text : String) : Option Url :=
  match read none text with
  | .address url => some url
  | _ => none

def join (base : Url) (text : String) : Reading := read (some base) text

/-! ## Writing -/

def credentials (url : Url) : String :=
  if url.username = "" ∧ url.password = none then ""
  else url.username ++ ((url.password.map (":" ++ ·)).getD "") ++ "@"

def display (url : Url) : String :=
  url.scheme.lead ++ url.credentials ++ url.host.display ++
    (match url.port with
      | none => ""
      | some port => ":" ++ Nat.repr port.toNat) ++
    "/" ++ "/".intercalate url.path ++
    ((url.query.map ("?" ++ ·)).getD "") ++ ((url.fragment.map ("#" ++ ·)).getD "")

def effectivePort (url : Url) : Nat :=
  (url.port.map UInt16.toNat).getD url.scheme.defaultPort

/-- A part of an address as plain text, if it is the percent form of some text. -/
def plain? (part : String) : Option String :=
  String.fromUTF8? ⟨(Percent.decode part.toList).toArray⟩

def login? (url : Url) : Option (String × Option String) :=
  match plain? url.username with
  | none => none
  | some username =>
    let password := url.password.bind plain?
    if username = "" ∧ password = none then none else some (username, password)

def withoutCredentials (url : Url) : Url :=
  { url with username := "", password := none }

end Url

end AccountKeeper
