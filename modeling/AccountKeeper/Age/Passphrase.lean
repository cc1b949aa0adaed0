import AccountKeeper.Age.Header
import AccountKeeper.Age.Payload
import AccountKeeper.Crypto.Scrypt

/-!
# Files encrypted under a passphrase

The file key is sealed under a key derived from the passphrase, at a cost that
the header names; header and payload are protected by keys derived from the
file key.
-/

set_option autoImplicit false

namespace AccountKeeper.Age

open Crypto

namespace Passphrase

def stanzaKind : String := "scrypt"

def saltLabel : List UInt8 := "age-encryption.org/v1/scrypt".toUTF8.toList

def saltSize : Nat := 16

def bodySize : Nat := 32

def nonceSize : Nat := 16

def zeroNonce : List UInt8 := List.replicate 12 0

def wrapKey (cost : Nat) (passphrase : String) (salt : List UInt8) : List UInt8 :=
  Scrypt.derive cost passphrase.toUTF8.toList (saltLabel ++ salt)

def macOf (fileKey covered : List UInt8) : List UInt8 :=
  hmac (hkdf [] fileKey "header".toUTF8.toList) covered

def payloadKey (fileKey nonce : List UInt8) : List UInt8 :=
  hkdf nonce fileKey "payload".toUTF8.toList

/-- The cost, below 256 and without leading zeros, that the leading digits of a text write. -/
def cost? (text : String) : Option Nat :=
  let digits := text.toList.takeWhile Char.isDigit
  let value := digits.foldl (fun value d => value * 10 + (d.toNat - '0'.toNat)) 0
  if digits.head?.any (· ≠ '0') ∧ value < 256 then some value else none

def parameters (stanza : Stanza) : Except Fault (List UInt8 × Nat × List UInt8) :=
  match stanza.arguments with
  | [salt, cost] =>
    match Text.Base64.decode? salt.toList, cost? cost with
    | some salt, some cost =>
      if salt.length = saltSize ∧ stanza.body.length = bodySize then
        .ok (salt, cost, stanza.body)
      else .error .invalidHeader
    | _, _ => .error .invalidHeader
  | _ => .error .invalidHeader

def onlyStanza (header : Header) : Except Fault Stanza :=
  match header.stanzas with
  | [stanza] => if stanza.kind = stanzaKind then .ok stanza else .error .notPassphrase
  | stanzas =>
    if stanzas.any (·.kind = stanzaKind) then .error .invalidHeader else .error .notPassphrase

/-- The file key of a stanza; costs above the limit are refused. -/
def fileKey (limit : Nat) (passphrase : String) (stanza : Stanza) :
    Except Fault (List UInt8) := do
  let (salt, cost, body) ← parameters stanza
  if limit < cost then throw (.excessiveWork (Nat.pow 2 (cost - limit)))
  match SealedBox.decrypt (wrapKey cost passphrase salt) zeroNonce body with
  | some key => return key
  | none => throw .wrongPassphrase

/-- A file whose header was read. -/
structure Locked where
  header : Header
  stanza : Stanza
  nonce : List UInt8
  payload : List UInt8

def start (file : List UInt8) : Except Fault Locked := do
  let (header, rest) ← Header.read file
  let (nonce, payload) ← Header.take nonceSize rest
  let stanza ← onlyStanza header
  return { header, stanza, nonce, payload }

/-- A payload with its key. -/
structure Unlocked where
  key : List UInt8
  payload : List UInt8

def unlock (limit : Nat) (passphrase : String) (locked : Locked) : Except Fault Unlocked := do
  let key ← fileKey limit passphrase locked.stanza
  if macOf key locked.header.covered ≠ locked.header.mac then throw .invalidMac
  return { key := payloadKey key locked.nonce, payload := locked.payload }

def read (unlocked : Unlocked) : Except Fault (List UInt8) :=
  Payload.decrypt unlocked.key unlocked.payload

/-- The secret and random parts of a new file. -/
structure Seeds where
  fileKey : List UInt8
  salt : List UInt8
  nonce : List UInt8

def Seeds.ofBits (bits : Nat) : Seeds where
  fileKey := Poly1305.bytesOf 16 bits
  salt := Poly1305.bytesOf saltSize (bits / Nat.pow 256 16)
  nonce := Poly1305.bytesOf nonceSize (bits / Nat.pow 256 32)

def encrypt (cost : Nat) (passphrase : String) (seeds : Seeds) (content : List UInt8) :
    List UInt8 :=
  let stanza : Stanza :=
    { kind := stanzaKind
      arguments := [String.ofList (Text.Base64.encode seeds.salt), Nat.repr cost]
      body := SealedBox.encrypt (wrapKey cost passphrase seeds.salt) zeroNonce seeds.fileKey }
  let covered := Header.covering stanza
  covered ++ Header.closing (macOf seeds.fileKey covered) ++ seeds.nonce ++
    Payload.encrypt (payloadKey seeds.fileKey seeds.nonce) content

end Passphrase

end AccountKeeper.Age
