/-!
# Poly1305

A tag of 16 bytes for a message under a key that is used once: the value of a
polynomial, whose coefficients are the message, at a secret point.
-/

set_option autoImplicit false

namespace AccountKeeper.Crypto.Poly1305

def littleEndian (bytes : List UInt8) : Nat :=
  bytes.foldr (fun b n => 256 * n + b.toNat) 0

def bytesOf (count n : Nat) : List UInt8 :=
  (List.range count).map fun i => (n / Nat.pow 256 i % 256).toUInt8

def modulus : Nat := Nat.pow 2 130 - 5

/-- The point, with the bits cleared that are not used. -/
def clamp (n : Nat) : Nat :=
  n &&& 0x0FFFFFFC0FFFFFFC0FFFFFFC0FFFFFFF

def absorb (point : Nat) : Nat → Nat → List UInt8 → Nat
  | 0, value, _ => value
  | count + 1, value, message =>
    let chunk := message.take 16
    let coefficient := littleEndian chunk + Nat.pow 256 chunk.length
    absorb point count ((value + coefficient) * point % modulus) (message.drop 16)

def tag (key message : List UInt8) : List UInt8 :=
  let point := clamp (littleEndian (key.take 16))
  let value := absorb point ((message.length + 15) / 16) 0 message
  bytesOf 16 (value + littleEndian (key.drop 16))

end AccountKeeper.Crypto.Poly1305
