import AccountKeeper.Failure
import AccountKeeper.Toml.Decoder
import AccountKeeper.Toml.Printer

/-!
# Documents of accounts

The list of accounts as a document: one table `accounts` per account, with
identifier, login and server.
-/

set_option autoImplicit false

namespace AccountKeeper

namespace AccountId

def wanted : String := "a formatted UUID string"

/-- An identifier given by its 16 bytes; more are passed over. -/
def ofItems (items : List Toml.Item) : Except Toml.Mismatch AccountId := do
  let bytes ← (items.take 16).mapM (Toml.Decoder.natBelow 256 "u8")
  match Uuid.ofBytes? (bytes.map UInt8.ofNat) with
  | some uuid => return ⟨uuid⟩
  | none => throw (.length bytes.length wanted)

def decoder : Toml.Decoder AccountId
  | .scalar (.string text) =>
    match Uuid.parse text with
    | .ok uuid => .ok ⟨uuid⟩
    | .error fault => .error (.refused ("UUID parsing failed: " ++ fault.message))
  | .array items => ofItems items
  | .tables items => ofItems items
  | item => .error (.kind item.described wanted)

end AccountId

def ServerAddress.decoder : Toml.Decoder ServerAddress :=
  Toml.Decoder.parsed fun text => (ServerAddress.read text).mapError Failure.message

namespace Account

structure Draft where
  id : Option AccountId := none
  login : Option String := none
  server : Option ServerAddress := none

def fieldNames : List String := ["id", "login", "server"]

def Draft.take (draft : Draft) (key : String) (item : Toml.Item) :
    Except Toml.Mismatch Draft := do
  match key with
  | "id" => return { draft with id := some (← AccountId.decoder item) }
  | "login" => return { draft with login := some (← Toml.Decoder.string item) }
  | "server" => return { draft with server := some (← ServerAddress.decoder item) }
  | _ => return draft

def Draft.finish (draft : Draft) (layout : Toml.Decoder.Layout) :
    Except Toml.Mismatch Account :=
  match draft with
  | ⟨none, _, _⟩ => .error (layout.absent "id")
  | ⟨_, none, _⟩ => .error (layout.absent "login")
  | ⟨_, _, none⟩ => .error (layout.absent "server")
  | ⟨some id, some login, some server⟩ => .ok ⟨id, login, server⟩

def decoder : Toml.Decoder Account := fun item => do
  let (draft, layout) ← Toml.Decoder.fields "Account" fieldNames Draft.take {} item
  draft.finish layout

def toEntries (account : Account) : Toml.Entries :=
  [("id", .string account.id.display), ("login", .string account.login),
    ("server", .string account.server.display)]

end Account

namespace AccountDocument

def decoder : Toml.Decoder (List Account) := fun item => do
  let (accounts, _) ← Toml.Decoder.fields "AccountState" ["accounts"]
    (fun accounts key item =>
      if key = "accounts" then Toml.Decoder.list Account.decoder item else return accounts)
    ([] : List Account) item
  return accounts

def read (text : String) : Except Toml.Fault (List Account) :=
  Toml.Decoder.document decoder text

def print (accounts : List Account) : String :=
  Toml.print [("accounts", .array (accounts.map fun account => .table account.toEntries))]

end AccountDocument

end AccountKeeper
