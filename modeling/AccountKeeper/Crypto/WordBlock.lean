/-!
# Blocks of sixteen words

The state on which stream ciphers work: sixteen words of 32 bits, written as 64
bytes with the lowest byte of each word first.
-/

set_option autoImplicit false

namespace AccountKeeper.Crypto

structure WordBlock where
  w0 : UInt32
  w1 : UInt32
  w2 : UInt32
  w3 : UInt32
  w4 : UInt32
  w5 : UInt32
  w6 : UInt32
  w7 : UInt32
  w8 : UInt32
  w9 : UInt32
  w10 : UInt32
  w11 : UInt32
  w12 : UInt32
  w13 : UInt32
  w14 : UInt32
  w15 : UInt32
  deriving DecidableEq, Inhabited

namespace WordBlock

@[inline] def rotateLeft (x : UInt32) (n : UInt32) : UInt32 :=
  x <<< n ||| x >>> (32 - n)

def build (word : Nat → UInt32) : WordBlock :=
  ⟨word 0, word 1, word 2, word 3,
    word 4, word 5, word 6, word 7,
    word 8, word 9, word 10, word 11,
    word 12, word 13, word 14, word 15⟩

def toList (x : WordBlock) : List UInt32 :=
  [x.w0, x.w1, x.w2, x.w3, x.w4, x.w5, x.w6, x.w7,
    x.w8, x.w9, x.w10, x.w11, x.w12, x.w13, x.w14, x.w15]

def add (x y : WordBlock) : WordBlock :=
  ⟨x.w0 + y.w0, x.w1 + y.w1, x.w2 + y.w2, x.w3 + y.w3,
    x.w4 + y.w4, x.w5 + y.w5, x.w6 + y.w6, x.w7 + y.w7,
    x.w8 + y.w8, x.w9 + y.w9, x.w10 + y.w10, x.w11 + y.w11,
    x.w12 + y.w12, x.w13 + y.w13, x.w14 + y.w14, x.w15 + y.w15⟩

def xor (x y : WordBlock) : WordBlock :=
  ⟨x.w0 ^^^ y.w0, x.w1 ^^^ y.w1, x.w2 ^^^ y.w2, x.w3 ^^^ y.w3,
    x.w4 ^^^ y.w4, x.w5 ^^^ y.w5, x.w6 ^^^ y.w6, x.w7 ^^^ y.w7,
    x.w8 ^^^ y.w8, x.w9 ^^^ y.w9, x.w10 ^^^ y.w10, x.w11 ^^^ y.w11,
    x.w12 ^^^ y.w12, x.w13 ^^^ y.w13, x.w14 ^^^ y.w14, x.w15 ^^^ y.w15⟩

/-- A word from its bytes, the lowest one first; missing bytes are zero. -/
def wordOf (bytes : List UInt8) : UInt32 :=
  bytes.foldr (fun b word => word <<< 8 ||| b.toUInt32) 0

def wordsOf : List UInt8 → List UInt32
  | b0 :: b1 :: b2 :: b3 :: rest => wordOf [b0, b1, b2, b3] :: wordsOf rest
  | _ => []

/-- The block of a list of words; missing words are zero. -/
def ofWords (words : List UInt32) : WordBlock :=
  let table := words.toArray
  build fun i => table.getD i 0

def ofBytes (bytes : List UInt8) : WordBlock :=
  ofWords (wordsOf bytes)

def wordBytes (word : UInt32) : List UInt8 :=
  [word.toUInt8, (word >>> 8).toUInt8, (word >>> 16).toUInt8, (word >>> 24).toUInt8]

def toBytes (x : WordBlock) : List UInt8 :=
  x.toList.flatMap wordBytes

end WordBlock

end AccountKeeper.Crypto
