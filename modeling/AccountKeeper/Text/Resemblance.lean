/-!
# Resemblance of words

A measure between 0 and 1 of how much two words resemble each other, and the
known words that resemble a mistyped one.  The measure is the mean of three
shares: the matching characters in each of the words, and the matching
characters that stand in the same order in both.
-/

set_option autoImplicit false

namespace AccountKeeper.Text

namespace Resemblance

/-- How far apart two matching characters of words of these lengths may stand. -/
def reach (a b : Nat) : Nat := max a b / 2 - 1

def place? (c : Char) (low high : Nat) (taken : List Nat) (word : List Char) : Option Nat :=
  (word.zipIdx.find? fun (d, i) =>
    decide (low ≤ i) && decide (i < high) && d == c && !taken.contains i).map Prod.snd

def matching (a b : List Char) : List (Nat × Nat) :=
  let range := reach a.length b.length
  a.zipIdx.foldl (fun found (c, i) =>
    match place? c (i - range) (i + range + 1) (found.map Prod.snd) b with
    | some j => found ++ [(i, j)]
    | none => found) []

def misplaced (a b : List Char) (found : List (Nat × Nat)) : Nat :=
  let first := found.map fun (i, _) => a[i]?
  let second := ((found.map Prod.snd).mergeSort (· ≤ ·)).map fun j => b[j]?
  ((first.zip second).filter fun (c, d) => c != d).length

/-- The measure, each of whose steps is rounded to a binary floating-point number. -/
def measure (a b : List Char) : Float :=
  let found := matching a b
  if found = [] then 0
  else
    let shared := found.length
    let ordered := shared - misplaced a b found / 2
    (shared.toFloat / a.length.toFloat + shared.toFloat / b.length.toFloat +
      ordered.toFloat / shared.toFloat) / 3

def threshold : Float := 0.7

end Resemblance

/-- The known words that resemble a word, the best of them last. -/
def similarWords (word : String) (known : List String) : List String :=
  let rated := known.map fun other =>
    (Resemblance.measure word.toList other.toList, other)
  ((rated.filter fun (rating, _) => Resemblance.threshold < rating).mergeSort fun first second =>
    first.1 ≤ second.1).map Prod.snd

end AccountKeeper.Text
