import AccountKeeper.Crypto.WordBlock

/-!
# ChaCha20

A stream cipher: a key, a nonce and the number of a block give 64 bytes of key
stream, which are combined with the message by exclusive or.
-/

set_option autoImplicit false

namespace AccountKeeper.Crypto.ChaCha20

open WordBlock

@[inline] def quarter (a b c d : UInt32) : UInt32 × UInt32 × UInt32 × UInt32 :=
  let a := a + b
  let d := rotateLeft (d ^^^ a) 16
  let c := c + d
  let b := rotateLeft (b ^^^ c) 12
  let a := a + b
  let d := rotateLeft (d ^^^ a) 8
  let c := c + d
  let b := rotateLeft (b ^^^ c) 7
  (a, b, c, d)

def doubleRound (x : WordBlock) : WordBlock :=
  let (c0, c4, c8, c12) := quarter x.w0 x.w4 x.w8 x.w12
  let (c1, c5, c9, c13) := quarter x.w1 x.w5 x.w9 x.w13
  let (c2, c6, c10, c14) := quarter x.w2 x.w6 x.w10 x.w14
  let (c3, c7, c11, c15) := quarter x.w3 x.w7 x.w11 x.w15
  let (d0, d5, d10, d15) := quarter c0 c5 c10 c15
  let (d1, d6, d11, d12) := quarter c1 c6 c11 c12
  let (d2, d7, d8, d13) := quarter c2 c7 c8 c13
  let (d3, d4, d9, d14) := quarter c3 c4 c9 c14
  ⟨d0, d1, d2, d3, d4, d5, d6, d7, d8, d9, d10, d11, d12, d13, d14, d15⟩

def rounds : Nat → WordBlock → WordBlock
  | 0, x => x
  | count + 1, x => rounds count (doubleRound x)

/-- The block before mixing: four constant words, the key, the number and the nonce. -/
def input (key nonce : List UInt8) (number : Nat) : WordBlock :=
  ofWords ([0x61707865, 0x3320646E, 0x79622D32, 0x6B206574] ++ wordsOf key ++
    number.toUInt32 :: wordsOf nonce)

def block (key nonce : List UInt8) (number : Nat) : List UInt8 :=
  let start := input key nonce number
  (start.add (rounds 10 start)).toBytes

/-- Combines a message with the key stream, in blocks from the given number on. -/
def apply (key nonce : List UInt8) : Nat → Nat → List UInt8 → List UInt8
  | 0, _, _ => []
  | count + 1, number, message =>
    (message.take 64).zipWith (· ^^^ ·) (block key nonce number) ++
      apply key nonce count (number + 1) (message.drop 64)

def crypt (key nonce : List UInt8) (number : Nat) (message : List UInt8) : List UInt8 :=
  apply key nonce ((message.length + 63) / 64) number message

end AccountKeeper.Crypto.ChaCha20
