import AccountKeeper.Crypto.ChaCha20
import AccountKeeper.Crypto.Poly1305

/-!
# Sealed boxes

Authenticated encryption: a message encrypted by a stream cipher, followed by a
tag that shows every change.
-/

set_option autoImplicit false

namespace AccountKeeper.Crypto.SealedBox

def tagSize : Nat := 16

def padding (length : Nat) : List UInt8 :=
  List.replicate ((16 - length % 16) % 16) 0

def tagOf (key nonce encrypted : List UInt8) : List UInt8 :=
  Poly1305.tag ((ChaCha20.block key nonce 0).take 32)
    (encrypted ++ padding encrypted.length ++ Poly1305.bytesOf 8 0 ++
      Poly1305.bytesOf 8 encrypted.length)

def encrypt (key nonce message : List UInt8) : List UInt8 :=
  let encrypted := ChaCha20.crypt key nonce 1 message
  encrypted ++ tagOf key nonce encrypted

/-- The message in a box, if the box was made under the key and not changed. -/
def decrypt (key nonce box : List UInt8) : Option (List UInt8) :=
  if box.length < tagSize then none
  else
    let encrypted := box.take (box.length - tagSize)
    let tag := box.drop (box.length - tagSize)
    if tagOf key nonce encrypted = tag then some (ChaCha20.crypt key nonce 1 encrypted) else none

end AccountKeeper.Crypto.SealedBox
