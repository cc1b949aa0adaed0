import AccountKeeper.Text.Bisection

/-!
# Sets of code points

A property of characters given by the Unicode standard is a finite union of
intervals.  `CodeSet` holds the intervals in increasing order and answers
membership by bisection.  All tables are those of version 17 of the standard.
-/

set_option autoImplicit false

namespace AccountKeeper.Text

/-- Disjoint intervals of code points, both ends included, in increasing order. -/
structure CodeSet where
  ranges : Array (Nat × Nat)

def CodeSet.contains (set : CodeSet) (c : Char) : Bool :=
  (interval? id set.ranges c.toNat).isSome

end AccountKeeper.Text
