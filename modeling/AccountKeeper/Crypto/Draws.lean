import AccountKeeper.Crypto.Hmac
import AccountKeeper.Crypto.Poly1305

/-!
# Draws from a seed

Random bits by number, all made from one seed that nobody knows.
-/

set_option autoImplicit false

namespace AccountKeeper.Crypto

/-- The random bits of a draw: 64 bytes. -/
def draw (seed : List UInt8) (number : Nat) : Nat :=
  let half (side : UInt8) : List UInt8 := hmac seed (side :: Sha256.bigEndian 8 number)
  Poly1305.littleEndian (half 0 ++ half 1)

end AccountKeeper.Crypto
