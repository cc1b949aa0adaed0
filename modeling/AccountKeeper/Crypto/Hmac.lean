import AccountKeeper.Crypto.Sha256

/-!
# Keyed hashes and derived keys

A keyed hash over SHA-256, and the keys derived with it: from a secret for a
purpose (HKDF), and from a password and a salt (PBKDF2).
-/

set_option autoImplicit false

namespace AccountKeeper.Crypto

/-- A key of the size of a block: longer keys are hashed, shorter ones end in zeros. -/
def Hmac.blockKey (key : List UInt8) : List UInt8 :=
  let short := if Sha256.blockSize < key.length then Sha256.digest key else key
  short ++ List.replicate (Sha256.blockSize - short.length) 0

def hmac (key message : List UInt8) : List UInt8 :=
  let block := Hmac.blockKey key
  let inner := Sha256.digest (block.map (· ^^^ 0x36) ++ message)
  Sha256.digest (block.map (· ^^^ 0x5C) ++ inner)

/-- A key of 32 bytes, derived from a secret and a salt for a purpose. -/
def hkdf (salt secret purpose : List UInt8) : List UInt8 :=
  hmac (hmac salt secret) (purpose ++ [1])

/-- `count` blocks of 32 bytes, derived in one pass from a password and a salt. -/
def pbkdf2 (password salt : List UInt8) (count : Nat) : List UInt8 :=
  (List.range count).flatMap fun i => hmac password (salt ++ Sha256.bigEndian 4 (i + 1))

end AccountKeeper.Crypto
