import AccountKeeper.Text.Direction
import AccountKeeper.Text.Joining
import AccountKeeper.Text.Lowercase
import AccountKeeper.Text.Normalization
import AccountKeeper.Text.Printable
import AccountKeeper.Url.Domain.Mapping
import AccountKeeper.Url.Punycode

/-!
# Domain names

A domain name is a sequence of labels with dots between them.  Addresses hold
its ASCII form: small letters, and `xn--` with the punycode form for each label
that has other characters.  Names that look the same have the same ASCII form.
-/

set_option autoImplicit false

namespace AccountKeeper.Url.Domain

open Text

/-! ## Characters -/

def forbidden : List Char :=
  [' ', '#', '%', '/', ':', '<', '>', '?', '@', '[', '\\', ']', '^', '|', '\x7F']

def isForbidden (c : Char) : Bool :=
  c.toNat < 0x20 || forbidden.contains c

/-- Characters that are left out of domain names: fillers, joiners and selectors of variants. -/
def ignored : CodeSet where
  ranges := #[
    (0xAD, 0xAD), (0x34F, 0x34F), (0x115F, 0x1160), (0x17B4, 0x17B5), (0x180B, 0x180F),
    (0x200B, 0x200B), (0x2060, 0x2064), (0x206A, 0x206F), (0x3164, 0x3164), (0xFE00, 0xFE0F),
    (0xFEFF, 0xFEFF), (0xFFA0, 0xFFA0), (0x1BCA0, 0x1BCA3), (0x1D173, 0x1D17A), (0xE0100, 0xE01EF)]

/-- Visible characters that no domain name has: some stand for dots, some for parts of others. -/
def disallowed : CodeSet where
  ranges := #[
    (0x2024, 0x2026), (0x2488, 0x249B), (0x2FF0, 0x2FFF), (0x31EF, 0x31EF), (0x33C2, 0x33C2),
    (0x33C7, 0x33C7), (0x33D8, 0x33D8), (0xFE12, 0xFE12), (0xFE19, 0xFE19), (0xFE30, 0xFE30),
    (0xFE52, 0xFE52), (0xFFFC, 0xFFFD), (0x1F100, 0x1F100)]

/-- Capitals of Cherokee, which stand for themselves and for their small letters. -/
def isCherokeeCapital (c : Char) : Bool :=
  0x13A0 ≤ c.toNat && c.toNat ≤ 0x13F5

def isAllowed (c : Char) : Bool :=
  c = Joining.separator || c = Joining.joiner ||
    (!unprintable.contains c && !disallowed.contains c)

def mapChar? (c : Char) : Option (List Char) :=
  if c.toNat < 0x80 then some [c.toLower]
  else if ignored.contains c then some []
  else
    match mapping.get? c with
    | some text => some text
    | none =>
      if isCherokeeCapital c then some [c]
      else if isAllowed c then some (lowerChar c)
      else none

def fold? (name : List Char) : Option (List Char) :=
  (name.mapM mapChar?).map fun texts => normalize texts.flatten

def isFolded (text : List Char) : Bool :=
  text.all (fun c => mapChar? c = some [c]) && normalize text = text

/-! ## Labels -/

def silencerClass : Nat := 9

/-- Whether invisible joiners stand only where they matter: behind a mark that silences a vowel or,
if they keep letters apart, between letters that would join.  `before` is given in reverse. -/
def joinersFit (before : List Char) : List Char → Bool
  | [] => true
  | c :: rest =>
    let silenced := before.head?.any fun last => Normalization.markClass last = silencerClass
    let fits :=
      if c = Joining.separator then silenced || (Joining.opens before && Joining.closes rest)
      else if c = Joining.joiner then silenced
      else true
    fits && joinersFit (c :: before) rest

def isValidLabel (label : List Char) : Bool :=
  !label.head?.any isMark && joinersFit [] label && !label.any isForbidden

/-- Whether the characters of a label keep their order where some label is written from the right. -/
def keepsOrder (label : List Char) : Bool :=
  match label.map Direction.of with
  | [] => true
  | first :: others =>
    let rest := dropTail others
    let inner := rest.dropLast
    match first with
    | .left =>
      rest.getLast?.all (fun last => last = .left || last = .digit) &&
        inner.all fun direction => direction ≠ .right && direction ≠ .arabicDigit
    | .right =>
      rest.getLast?.all (fun last => last ≠ .left && last ≠ .neutral) &&
        !inner.contains .left && !(rest.contains .digit && rest.contains .arabicDigit)
    | _ => false
where
  dropTail (directions : List Direction) : List Direction :=
    (directions.reverse.dropWhile (· = .mark)).reverse

def isFromRight (c : Char) : Bool :=
  Direction.of c = .right || Direction.of c = .arabicDigit

structure Label where
  text : List Char
  ascii : List Char

def codedLead : List Char := ['x', 'n', '-', '-']

def encodeLimit : Nat := 1000

def decodeLimit : Nat := 2000

def decodeLabel? (form : List Char) : Option Label :=
  if form = [] ∨ form.getLast? = some '-' ∨ decodeLimit < form.length then none
  else
    match Punycode.decode form with
    | none => none
    | some text =>
      if isFolded text ∧ isValidLabel text then some ⟨text, codedLead ++ form⟩ else none

def label? (text : List Char) : Option Label :=
  if text.all Punycode.isBasic then
    if codedLead.isPrefixOf text then decodeLabel? (text.drop codedLead.length)
    else if text.any isForbidden then none
    else some ⟨text, text⟩
  else if codedLead.isPrefixOf text ∨ encodeLimit < text.length ∨ ¬isValidLabel text then none
  else some ⟨text, codedLead ++ Punycode.encode text⟩

/-! ## Names -/

def labels? (name : List Char) : Option (List Label) := do
  let folded ← fold? name
  let labels ← (pieces '.' folded).mapM label?
  let texts := labels.map Label.text
  if texts.any (·.any isFromRight) ∧ ¬texts.all keepsOrder then none else some labels

def ascii? (name : List Char) : Option (List Char) :=
  (labels? name).map fun labels => ['.'].intercalate (labels.map Label.ascii)

end AccountKeeper.Url.Domain
