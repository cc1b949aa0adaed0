import AccountKeeper.Text.Bisection
import AccountKeeper.Text.Pieces

/-!
# Texts that stand for characters

A table that gives texts for some characters.  It is written in lines, each with
a first code point and the texts for it and its successors: code points in base
sixteen, with a plus sign between those of one text and a space between texts.
-/

set_option autoImplicit false

namespace AccountKeeper.Text

/-- Texts for code points, in increasing order of these. -/
structure CodeMap where
  entries : Array (Nat × List Char)

namespace CodeMap

def digitValue (c : Char) : Nat :=
  if c.isDigit then c.toNat - '0'.toNat else c.toNat - 'A'.toNat + 10

def readCode (digits : List Char) : Char :=
  Char.ofNat (digits.foldl (fun value d => value * 16 + digitValue d) 0)

def readLine (line : String) : List (List Char) :=
  (pieces ' ' line.toList).map fun text => (pieces '+' text).map readCode

def ofLines (lines : List (Nat × String)) : CodeMap where
  entries :=
    (lines.flatMap fun (first, line) =>
      (readLine line).zipIdx.map fun (text, i) => (first + i, text)).toArray

def get? (table : CodeMap) (c : Char) : Option (List Char) :=
  (interval? (fun entry => (entry.1, entry.1)) table.entries c.toNat).map Prod.snd

def keyOf? (table : CodeMap) (text : List Char) : Option Char :=
  (table.entries.find? fun entry => entry.2 = text).map fun entry => Char.ofNat entry.1

end CodeMap

end AccountKeeper.Text
