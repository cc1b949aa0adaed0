import AccountKeeper.Age.Fault
import AccountKeeper.Crypto.SealedBox

/-!
# Payloads of encrypted files

The content is cut into chunks, each of which is sealed on its own under a
nonce that counts the chunks and marks the last one.
-/

set_option autoImplicit false

namespace AccountKeeper.Age.Payload

open Crypto

def chunkSize : Nat := 65536

def sealedSize : Nat := chunkSize + SealedBox.tagSize

/-- The nonce of a chunk: its number, and whether it is the last one. -/
def nonce (number : Nat) (last : Bool) : List UInt8 :=
  (Poly1305.bytesOf 11 number).reverse ++ [if last then 1 else 0]

def encryptFrom (key : List UInt8) : Nat → Nat → List UInt8 → List UInt8
  | 0, _, _ => []
  | fuel + 1, number, content =>
    let rest := content.drop chunkSize
    let chunk := SealedBox.encrypt key (nonce number (rest = [])) (content.take chunkSize)
    if rest = [] then chunk else chunk ++ encryptFrom key fuel (number + 1) rest

def encrypt (key content : List UInt8) : List UInt8 :=
  encryptFrom key (content.length / chunkSize + 1) 0 content

/-- Opens one chunk; a chunk of full size may or may not be the last one. -/
def decryptChunk (key : List UInt8) (number : Nat) (chunk : List UInt8) :
    Except Fault (List UInt8 × Bool) :=
  let inner :=
    if chunk.length < sealedSize then none else SealedBox.decrypt key (nonce number false) chunk
  match inner with
  | some content => .ok (content, false)
  | none =>
    match SealedBox.decrypt key (nonce number true) chunk with
    | none => .error .damagedPayload
    | some content =>
      if content = [] ∧ number ≠ 0 then .error .emptyLastChunk else .ok (content, true)

def decryptFrom (key : List UInt8) : Nat → Nat → List UInt8 → Except Fault (List UInt8)
  | 0, _, _ => .error .truncatedPayload
  | fuel + 1, number, box => do
    if box = [] then throw .truncatedPayload
    let (content, last) ← decryptChunk key number (box.take sealedSize)
    let rest := box.drop sealedSize
    if last then
      if rest = [] then return content else throw .extraChunk
    return content ++ (← decryptFrom key fuel (number + 1) rest)

def decrypt (key box : List UInt8) : Except Fault (List UInt8) :=
  decryptFrom key (box.length / sealedSize + 2) 0 box

end AccountKeeper.Age.Payload
