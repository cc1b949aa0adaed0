import AccountKeeper.Age.Passphrase
import AccountKeeper.Failure
import AccountKeeper.Text.Pieces

/-!
# Ciphers

A cipher seals a text under a passphrase.  The stores of secrets work with any
cipher; `Cipher.through` makes one of a library for encrypted files, and
`Cipher.age` is the one whose files other programs can read.
-/

set_option autoImplicit false

namespace AccountKeeper

structure Cipher where
  encrypt : String → Nat → String → ByteArray
  decrypt : String → ByteArray → Except CredentialFailure String

/-- A library for encrypted files.  A file is opened in three steps: its header is read, a passphrase
unlocks it, and its content is read. -/
structure SealLibrary where
  Locked : Type
  Unlocked : Type
  encrypt : String → Nat → List UInt8 → List UInt8
  start : List UInt8 → Except Age.Fault Locked
  unlock : String → Locked → Except Age.Fault Unlocked
  read : Unlocked → Except Age.Fault (List UInt8)

/-- Files in the age format, made at a cost and opened up to a limit of the cost. -/
def SealLibrary.age (cost limit : Nat) : SealLibrary where
  Locked := Age.Passphrase.Locked
  Unlocked := Age.Passphrase.Unlocked
  encrypt passphrase bits content :=
    Age.Passphrase.encrypt cost passphrase (.ofBits bits) content
  start := Age.Passphrase.start
  unlock := Age.Passphrase.unlock limit
  read := Age.Passphrase.read

namespace Cipher

def failureOf (fault : Age.Fault) : CredentialFailure :=
  .encryption (.format fault)

/-- A refused passphrase is told from other faults by the text of the fault. -/
def refusalOf (fault : Age.Fault) : CredentialFailure :=
  let text := fault.message.toList
  if Text.hasInfix "decryption".toList text || Text.hasInfix "MAC".toList text then
    .decryptionFailed
  else failureOf fault

def through (library : SealLibrary) : Cipher where
  encrypt passphrase bits text :=
    ⟨(library.encrypt passphrase bits text.toUTF8.toList).toArray⟩
  decrypt passphrase file := do
    let locked ← (library.start file.toList).mapError failureOf
    let unlocked ← (library.unlock passphrase locked).mapError refusalOf
    let content ← (library.read unlocked).mapError failureOf
    (Text.Utf8.decode ⟨content.toArray⟩).mapError fun fault => .encryption (.notText fault)

def age (cost limit : Nat) : Cipher :=
  through (.age cost limit)

end Cipher

end AccountKeeper
