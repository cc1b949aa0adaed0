import AccountKeeper.Crypto.Hmac
import AccountKeeper.Crypto.WordBlock

/-!
# Scrypt

A key derived from a password at a chosen cost: `2 ^ cost` intermediate states
have to be kept in memory.  A state has sixteen blocks, and there is one lane.
-/

set_option autoImplicit false

namespace AccountKeeper.Crypto.Scrypt

open WordBlock

/-! ## Mixing one block -/

@[inline] def quarter (a b c d : UInt32) : UInt32 × UInt32 × UInt32 × UInt32 :=
  let b := b ^^^ rotateLeft (a + d) 7
  let c := c ^^^ rotateLeft (b + a) 9
  let d := d ^^^ rotateLeft (c + b) 13
  let a := a ^^^ rotateLeft (d + c) 18
  (a, b, c, d)

def doubleRound (x : WordBlock) : WordBlock :=
  let (c0, c4, c8, c12) := quarter x.w0 x.w4 x.w8 x.w12
  let (c5, c9, c13, c1) := quarter x.w5 x.w9 x.w13 x.w1
  let (c10, c14, c2, c6) := quarter x.w10 x.w14 x.w2 x.w6
  let (c15, c3, c7, c11) := quarter x.w15 x.w3 x.w7 x.w11
  let (r0, r1, r2, r3) := quarter c0 c1 c2 c3
  let (r5, r6, r7, r4) := quarter c5 c6 c7 c4
  let (r10, r11, r8, r9) := quarter c10 c11 c8 c9
  let (r15, r12, r13, r14) := quarter c15 c12 c13 c14
  ⟨r0, r1, r2, r3, r4, r5, r6, r7, r8, r9, r10, r11, r12, r13, r14, r15⟩

def salsa (x : WordBlock) : WordBlock :=
  x.add (doubleRound (doubleRound (doubleRound (doubleRound x))))

/-! ## Mixing a state -/

abbrev Lane := Array WordBlock

def laneSize : Nat := 16

/-- Chains the blocks of a state through `salsa`; the results come in their order. -/
def chain (lane : Lane) : Lane :=
  (lane.foldl (fun (last, done) block =>
    let next := salsa (last.xor block)
    (next, done.push next)) (lane.getD (lane.size - 1) default, #[])).2

/-- Mixes a state: the chained blocks at even places, then those at odd places. -/
def mix (lane : Lane) : Lane :=
  let done := chain lane
  let half := List.range (laneSize / 2)
  ((half.map fun i => done.getD (2 * i) default) ++
    (half.map fun i => done.getD (2 * i + 1) default)).toArray

def keep : Nat → Lane → Array Lane → Lane × Array Lane
  | 0, lane, kept => (lane, kept)
  | count + 1, lane, kept => keep count (mix lane) (kept.push lane)

def pointed (kept : Array Lane) (lane : Lane) : Lane :=
  kept.getD ((lane.getD (laneSize - 1) default).w0.toNat % kept.size) #[]

/-- Mixes a state `count` times, each time with the kept state it points to. -/
def stir (kept : Array Lane) : Nat → Lane → Lane
  | 0, lane => lane
  | count + 1, lane => stir kept count (mix (lane.zipWith WordBlock.xor (pointed kept lane)))

def roMix (cost : Nat) (lane : Lane) : Lane :=
  let (lane, kept) := keep (Nat.pow 2 cost) lane #[]
  stir kept (Nat.pow 2 cost) lane

/-! ## Deriving a key -/

def laneOf (bytes : List UInt8) : Lane :=
  ((List.range laneSize).map fun i => WordBlock.ofBytes ((bytes.drop (64 * i)).take 64)).toArray

def laneBytes (lane : Lane) : List UInt8 :=
  lane.toList.flatMap WordBlock.toBytes

def derive (cost : Nat) (password salt : List UInt8) : List UInt8 :=
  let bytes := pbkdf2 password salt 32
  pbkdf2 password (laneBytes (roMix cost (laneOf bytes))) 1

end AccountKeeper.Crypto.Scrypt
