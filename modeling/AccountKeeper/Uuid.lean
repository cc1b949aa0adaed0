import AccountKeeper.Text.Pieces

/-!
# Universally unique identifiers

An identifier is 32 hexadecimal digits.  It is written in five groups joined by
hyphens and read in four forms: the 32 digits alone, the five groups, the
groups between braces, and the groups after `urn:uuid:`.
-/

set_option autoImplicit false

namespace AccountKeeper

/-- The 32 hexadecimal digits of an identifier, the first one leading. -/
structure Uuid where
  digits : Vector (Fin 16) 32
  deriving DecidableEq, Repr

namespace Uuid

def groupLengths : List Nat := [8, 4, 4, 4, 12]

def digitChar (d : Fin 16) : Char :=
  Nat.digitChar d.val

def digit? (c : Char) : Option (Fin 16) :=
  if c.isDigit then some (Fin.ofNat 16 (c.toNat - '0'.toNat))
  else if 'a' ≤ c ∧ c ≤ 'f' then some (Fin.ofNat 16 (c.toNat - 'a'.toNat + 10))
  else if 'A' ≤ c ∧ c ≤ 'F' then some (Fin.ofNat 16 (c.toNat - 'A'.toNat + 10))
  else none

/-- Cuts a text into groups of the given lengths and joins them with hyphens. -/
def hyphenate : List Nat → List Char → List Char
  | [], rest => rest
  | [n], text => text.take n
  | n :: lengths, text => text.take n ++ '-' :: hyphenate lengths (text.drop n)

def display (id : Uuid) : String :=
  String.ofList (hyphenate groupLengths (id.digits.toList.map digitChar))

/-! ## Reading -/

inductive Fault where
  | character (found : Char) (position : Nat)
  | length (found : Nat)
  | groupCount (found : Nat)
  | groupLength (group expected found : Nat)
  deriving DecidableEq, Repr

def Fault.message : Fault → String
  | character found position =>
    "invalid character: found `" ++ found.toString ++ "` at " ++ Nat.repr position
  | length found => "invalid length: found " ++ Nat.repr found
  | groupCount found => "invalid group count: expected 5, found " ++ Nat.repr found
  | groupLength group expected found =>
    "invalid group length in group " ++ Nat.repr group ++ ": expected " ++ Nat.repr expected ++
      ", found " ++ Nat.repr found

def byteLength (text : List Char) : Nat :=
  text.foldl (fun length c => length + c.utf8Size) 0

inductive Dress where
  | bare
  | braces
  /-- After `urn:uuid:`, whose letters may have either case. -/
  | urn
  deriving DecidableEq, Repr

def Dress.lead : Dress → Nat
  | .bare => 0
  | .braces => 1
  | .urn => 9

def undress (text : List Char) : Dress × List Char :=
  match text, text.getLast? with
  | '{' :: rest, some '}' => (.braces, rest.dropLast)
  | _, _ =>
    if (text.take Dress.urn.lead).map Char.toLower = "urn:uuid:".toList then
      (.urn, text.drop Dress.urn.lead)
    else
      (.bare, text)

def strayCharacter : List Char → Nat → Option (Char × Nat)
  | [], _ => none
  | c :: rest, position =>
    if c = '-' ∨ (digit? c).isSome then strayCharacter rest (position + c.utf8Size)
    else some (c, position)

/-- First group among the first four whose length is not the expected one. -/
def badGroup : Nat → List Nat → List (List Char) → Option (Nat × Nat × Nat)
  | index, expected :: lengths, group :: groups =>
    if lengths = [] then none
    else if group.length = expected then badGroup (index + 1) lengths groups
    else some (index, expected, group.length)
  | _, _, _ => none

/-- The fault of a text of `size` bytes that starts at byte `offset` and is no identifier; where no
hyphen is needed, digits alone have a wrong length. -/
def diagnose (needsHyphens : Bool) (offset size : Nat) (text : List Char) : Fault :=
  match strayCharacter text offset with
  | some (c, position) => .character c position
  | none =>
    let groups := Text.pieces '-' text
    if groups.length = 1 ∧ ¬needsHyphens then .length size
    else if groups.length ≠ 5 then .groupCount groups.length
    else
      match badGroup 0 groupLengths groups with
      | some (group, expected, found) => .groupLength group expected found
      | none => .groupLength 4 12 (size - 24)

def ofDigits? (digits : List (Fin 16)) : Option Uuid :=
  if exact : digits.length = 32 then some ⟨⟨digits.toArray, by simpa using exact⟩⟩ else none

def readDigits (text : List Char) : Except Fault Uuid :=
  ((text.mapM digit?).bind ofDigits?).elim (.error (diagnose false 0 (byteLength text) text)) .ok

def readGroups (text : List Char) : Except Fault Uuid :=
  let groups := Text.pieces '-' text
  let digits? := if groups.map List.length = groupLengths then groups.flatten.mapM digit? else none
  (digits?.bind ofDigits?).elim (.error (diagnose true 0 (byteLength text) text)) .ok

def longest : Nat := 45

/-- Reads an identifier in any of its four forms.  The length of the text decides about the form. -/
def parse (input : String) : Except Fault Uuid :=
  let text := input.toList
  let size := byteLength text
  let (dress, inner) := undress text
  if longest < size then .error (.length size)
  else if size = 32 then readDigits text
  else if size = 36 then readGroups text
  else if dress ≠ .bare ∧ byteLength inner = 36 then readGroups inner
  else .error (diagnose (dress ≠ .bare) dress.lead size inner)

/-! ## Making -/

def byteDigits (b : UInt8) : List (Fin 16) :=
  [Fin.ofNat 16 (b.toNat / 16), Fin.ofNat 16 b.toNat]

def ofBytes? (bytes : List UInt8) : Option Uuid :=
  ofDigits? (bytes.flatMap byteDigits)

/-- The random identifier (version 4) made of the given bits, of which six are replaced. -/
def random (bits : Nat) : Uuid where
  digits := Vector.ofFn fun i =>
    if i.val = 12 then 4
    else
      let digit := bits / Nat.pow 16 (31 - i.val) % 16
      if i.val = 16 then Fin.ofNat 16 (8 + digit % 4) else Fin.ofNat 16 digit

end Uuid

end AccountKeeper
