import AccountKeeper.Text.Pieces
import AccountKeeper.Url.Domain
import AccountKeeper.Url.Percent

/-!
# Hosts

The host of an address is a domain name, a number of version 4 or a number of
version 6.  `Host.parse` reads all three: a name whose last label is a number
must be an address of version 4, and brackets hold one of version 6.
-/

set_option autoImplicit false

namespace AccountKeeper.Url

inductive Host where
  | domain (name : String)
  | version4 (address : Nat)
  | version6 (groups : List Nat)
  deriving DecidableEq, Repr

namespace Host

/-! ## Numbers of version 4 -/

def natOfDigits? (base : Nat) (digits : List Char) : Option Nat :=
  digits.foldlM (fun value c =>
    match Percent.hexValue? c with
    | some d => if d < base then some (value * base + d) else none
    | none => none) 0

/-- A number in base ten, in base eight after `0`, or in base sixteen after `0x`. -/
def number? : List Char → Option Nat
  | [] => none
  | '0' :: 'x' :: digits => natOfDigits? 16 digits
  | '0' :: 'X' :: digits => natOfDigits? 16 digits
  | ['0'] => some 0
  | '0' :: digits => natOfDigits? 8 digits
  | digits => natOfDigits? 10 digits

/-- The labels of a name, without the empty label after a dot at the end. -/
def labels (name : List Char) : List (List Char) :=
  let all := Text.pieces '.' name
  if 1 < all.length ∧ all.getLast? = some [] then all.dropLast else all

def endsInNumber (name : List Char) : Bool :=
  match (labels name).getLast? with
  | none => false
  | some last => (last ≠ [] && last.all Char.isDigit) || (number? last).isSome

/-- The address of up to four numbers: each is one byte, the last fills the bytes that are left. -/
def version4? (numbers : List Nat) : Option Nat :=
  match numbers.getLast? with
  | none => none
  | some last =>
    let bytes := numbers.dropLast
    if bytes.length < 4 ∧ bytes.all (· < 256) ∧ last < Nat.pow 256 (4 - bytes.length) then
      some (bytes.zipIdx.foldl (fun sum (byte, i) => sum + byte * Nat.pow 256 (3 - i)) last)
    else
      none

/-! ## Numbers of version 6 -/

def group? (text : List Char) : Option (Nat × List Char) :=
  let digits := (text.take 4).takeWhile fun c => (Percent.hexValue? c).isSome
  if digits = [] then none
  else (natOfDigits? 16 digits).map fun value => (value, text.drop digits.length)

def byte? (digits : List Char) : Option Nat :=
  if digits = [] ∨ (digits.head? = some '0' ∧ 1 < digits.length) ∨ 3 < digits.length then none
  else if digits.all Char.isDigit then
    (natOfDigits? 10 digits).bind fun value => if value < 256 then some value else none
  else none

/-- The last two groups of an address, written as four bytes with dots between them. -/
def tail4? (text : List Char) : Option (List Nat) :=
  match (Text.pieces '.' text).mapM byte? with
  | some [a, b, c, d] => some [a * 256 + b, c * 256 + d]
  | _ => none

structure Groups where
  before : List Nat
  /-- The groups after the two colons that stand for zeros, once those were met. -/
  after : Option (List Nat)

namespace Groups

def size (groups : Groups) : Nat :=
  groups.before.length + (groups.after.getD []).length

def push (groups : Groups) (more : List Nat) : Groups :=
  match groups.after with
  | none => { groups with before := groups.before ++ more }
  | some after => { groups with after := some (after ++ more) }

def complete? (groups : Groups) : Option (List Nat) :=
  match groups.after with
  | none => if groups.size = 8 then some groups.before else none
  | some after =>
    if groups.size < 8 then
      some (groups.before ++ List.replicate (8 - groups.size) 0 ++ after)
    else none

end Groups

def readGroups : Nat → Groups → List Char → Option Groups
  | 0, _, _ => none
  | _ + 1, groups, [] => some groups
  | fuel + 1, groups, text =>
    if groups.size = 8 then none
    else
      match text with
      | ':' :: rest =>
        if groups.after.isSome then none
        else readGroups fuel { groups with after := some [] } rest
      | _ =>
        match group? text with
        | none => none
        | some (value, []) => some (groups.push [value])
        | some (value, ':' :: rest) =>
          if rest = [] then none else readGroups fuel (groups.push [value]) rest
        | some (_, '.' :: _) =>
          if groups.size ≤ 6 then (tail4? text).map groups.push else none
        | some _ => none

def version6? (text : List Char) : Option (List Nat) :=
  let read :=
    match text with
    | ':' :: ':' :: rest => readGroups 10 ⟨[], some []⟩ rest
    | ':' :: _ => none
    | _ => readGroups 10 ⟨[], none⟩ text
  read.bind Groups.complete?

/-! ## Reading and writing -/

def parse (text : List Char) : Option Host :=
  match text with
  | '[' :: inner =>
    if inner.getLast? = some ']' then (version6? inner.dropLast).map version6 else none
  | _ =>
    match String.fromUTF8? ⟨(Percent.decode text).toArray⟩ with
    | none => none
    | some name =>
      match Domain.ascii? name.toList with
      | none => none
      | some [] => none
      | some ascii =>
        if endsInNumber ascii then
          ((labels ascii).mapM number?).bind fun numbers => (version4? numbers).map version4
        else some (domain (String.ofList ascii))

def zeros (groups : List Nat) : Nat := (groups.takeWhile (· = 0)).length

/-- The first place of the longest run of zeros, if there is a run of two or more. -/
def longestZeros (groups : List Nat) : Option (Nat × Nat) :=
  (List.range groups.length).foldl (fun best place =>
    let run := zeros (groups.drop place)
    if 2 ≤ run ∧ (best.map Prod.snd).getD 1 < run then some (place, run) else best) none

def colonText (groups : List Nat) : String :=
  ":".intercalate (groups.map fun value => String.ofList (Nat.toDigits 16 value))

def display : Host → String
  | domain name => name
  | version4 address =>
    ".".intercalate ([3, 2, 1, 0].map fun i => Nat.repr (address / Nat.pow 256 i % 256))
  | version6 groups =>
    match longestZeros groups with
    | none => "[" ++ colonText groups ++ "]"
    | some (place, run) =>
      "[" ++ colonText (groups.take place) ++ "::" ++ colonText (groups.drop (place + run)) ++ "]"

end Host

end AccountKeeper.Url
