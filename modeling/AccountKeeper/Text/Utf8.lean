/-!
# UTF-8

Reading bytes as text.  Where the bytes are no UTF-8, `Utf8.firstFault` tells
how far they are, and how many bytes the first bad sequence has.
-/

set_option autoImplicit false

namespace AccountKeeper.Text

structure Utf8Fault where
  position : Nat
  /-- Length of the bad sequence; `none` if the bytes end within a sequence. -/
  length : Option Nat
  deriving DecidableEq, Repr

def Utf8Fault.message (fault : Utf8Fault) : String :=
  match fault.length with
  | some length =>
    "invalid utf-8 sequence of " ++ Nat.repr length ++ " bytes from index " ++
      Nat.repr fault.position
  | none => "incomplete utf-8 byte sequence from index " ++ Nat.repr fault.position

namespace Utf8

/-- The bytes of a text are read as this text. -/
theorem fromUTF8?_toUTF8 (text : String) : String.fromUTF8? text.toUTF8 = some text :=
  dif_pos text.isValidUTF8

/-- Number of bytes after the first byte of a sequence, and the bounds of the byte after it. -/
def sequence? (first : UInt8) : Option (Nat × UInt8 × UInt8) :=
  if first < 0x80 then some (0, 0x80, 0xBF)
  else if first < 0xC2 then none
  else if first < 0xE0 then some (1, 0x80, 0xBF)
  else if first = 0xE0 then some (2, 0xA0, 0xBF)
  else if first = 0xED then some (2, 0x80, 0x9F)
  else if first < 0xF0 then some (2, 0x80, 0xBF)
  else if first = 0xF0 then some (3, 0x90, 0xBF)
  else if first < 0xF4 then some (3, 0x80, 0xBF)
  else if first = 0xF4 then some (3, 0x80, 0x8F)
  else none

/-- Bytes of `bytes` that continue a sequence: at most `count`, the first within bounds. -/
def continuation (count : Nat) (low high : UInt8) : List UInt8 → Nat
  | [] => 0
  | b :: rest =>
    match count with
    | 0 => 0
    | count + 1 => if low ≤ b ∧ b ≤ high then continuation count 0x80 0xBF rest + 1 else 0

/-- The first place where bytes are not UTF-8; `skip` bytes are known to continue a sequence. -/
def faultFrom (position skip : Nat) : List UInt8 → Option Utf8Fault
  | [] => none
  | b :: rest =>
    match skip with
    | skip + 1 => faultFrom (position + 1) skip rest
    | 0 =>
      match sequence? b with
      | none => some ⟨position, some 1⟩
      | some (count, low, high) =>
        let found := continuation count low high rest
        if found = count then faultFrom (position + 1) count rest
        else if found = rest.length then some ⟨position, none⟩
        else some ⟨position, some (found + 1)⟩

def firstFault (bytes : List UInt8) : Option Utf8Fault :=
  faultFrom 0 0 bytes

def decode (bytes : ByteArray) : Except Utf8Fault String :=
  match String.fromUTF8? bytes with
  | some text => .ok text
  | none => .error ((firstFault bytes.toList).getD ⟨0, some 1⟩)

end Utf8

end AccountKeeper.Text
