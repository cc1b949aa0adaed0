import AccountKeeper.Text.Normalization.Table

/-!
# The composed normal form

Texts that look the same can be written in several ways: with a composed
character or with its parts, and with marks in several orders.  `normalize` takes
all characters apart, brings the marks into order and composes them again.
-/

set_option autoImplicit false

namespace AccountKeeper.Text

namespace Normalization

/-- The class of a mark; all other characters have class 0. -/
def markClass (c : Char) : Nat :=
  match interval? (fun run => (run.1, run.2.1)) markClasses c.toNat with
  | none => 0
  | some (_, _, number) => number

/-! ## Syllables of Hangul -/

def firstSyllable : Nat := 0xAC00

def firstLead : Nat := 0x1100

def firstVowel : Nat := 0x1161

def beforeTails : Nat := 0x11A7

def letters? (c : Char) : Option (List Char) :=
  let index := c.toNat - firstSyllable
  if firstSyllable ≤ c.toNat ∧ index < 19 * 21 * 28 then
    let lead := Char.ofNat (firstLead + index / (21 * 28))
    let vowel := Char.ofNat (firstVowel + index / 28 % 21)
    let tail := index % 28
    some (lead :: vowel :: if tail = 0 then [] else [Char.ofNat (beforeTails + tail)])
  else none

def syllable? (first second : Char) : Option Char :=
  let lead := first.toNat - firstLead
  let vowel := second.toNat - firstVowel
  let index := first.toNat - firstSyllable
  let tail := second.toNat - beforeTails
  if firstLead ≤ first.toNat ∧ lead < 19 ∧ firstVowel ≤ second.toNat ∧ vowel < 21 then
    some (Char.ofNat (firstSyllable + (lead * 21 + vowel) * 28))
  else if firstSyllable ≤ first.toNat ∧ index < 19 * 21 * 28 ∧ index % 28 = 0 ∧
      beforeTails < second.toNat ∧ tail < 28 then
    some (Char.ofNat (first.toNat + tail))
  else none

/-! ## The three steps -/

/-- How often a first part may itself be composed. -/
def depth : Nat := 4

def partsOf (table : CodeMap) : Nat → Char → List Char
  | 0, c => [c]
  | depth + 1, c =>
    match letters? c, table.get? c with
    | some letters, _ => letters
    | none, some (first :: rest) => partsOf table depth first ++ rest
    | none, _ => [c]

/-- Puts a character before a text, behind the marks of lower classes at its front. -/
def sink (c : Char) : List Char → List Char
  | [] => [c]
  | d :: rest =>
    if markClass d ≠ 0 ∧ markClass d < markClass c then d :: sink c rest else c :: d :: rest

def order (text : List Char) : List Char :=
  text.foldr sink []

theorem sink_perm (c : Char) (text : List Char) : (sink c text).Perm (c :: text) := by
  induction text with
  | nil => exact .refl _
  | cons d rest ih =>
    rw [sink]
    split
    · exact (ih.cons d).trans (.swap c d rest)
    · exact .refl _

theorem order_perm (text : List Char) : (order text).Perm text := by
  induction text with
  | nil => exact .refl _
  | cons c rest ih => exact (sink_perm c (order rest)).trans (ih.cons c)

def compose? (first second : Char) : Option Char :=
  (syllable? first second).or (composed.keyOf? [first, second])

/--
Composes `base` with what follows.  `passed` are the marks between them that
were not composed, the last one in front; a mark is kept from the base by a mark
of its own or a higher class.
-/
def composeFrom (base : Char) (passed : List Char) : List Char → List Char
  | [] => base :: passed.reverse
  | c :: rest =>
    let free := passed.head?.all fun last => markClass last < markClass c
    match (compose? base c).filter fun _ => free with
    | some whole => composeFrom whole passed rest
    | none =>
      if markClass c = 0 then base :: passed.reverse ++ composeFrom c [] rest
      else composeFrom base (c :: passed) rest

def compose (text : List Char) : List Char :=
  text.takeWhile (markClass · ≠ 0) ++
    match text.dropWhile (markClass · ≠ 0) with
    | [] => []
    | base :: rest => composeFrom base [] rest

end Normalization

def normalize (text : List Char) : List Char :=
  if text.all (·.toNat < 0x80) then text
  else
    Normalization.compose (Normalization.order
      (text.flatMap (Normalization.partsOf Normalization.composed Normalization.depth)))

end AccountKeeper.Text
