import AccountKeeper.Text.Pieces

/-!
# Punycode

An ASCII form of Unicode texts.  The ASCII characters of a text come first; then
the others follow in increasing order, each as the number of steps from the one
before it, written with digits `a` to `z` and `0` to `9` of variable weight.
`encode` writes the form and `decode` reads it.
-/

set_option autoImplicit false

namespace AccountKeeper.Url.Punycode

def digit (value : Nat) : Char :=
  if value < 26 then Char.ofNat (97 + value) else Char.ofNat (22 + value)

def digitValue? (c : Char) : Option Nat :=
  if 'a' ≤ c ∧ c ≤ 'z' then some (c.toNat - 97)
  else if 'A' ≤ c ∧ c ≤ 'Z' then some (c.toNat - 65)
  else if c.isDigit then some (c.toNat - 22)
  else none

/-- The least value of a digit at a position (36, 72, …) that does not end a number. -/
def threshold (bias position : Nat) : Nat :=
  min 26 (max 1 (position - bias))

theorem threshold_pos (bias position : Nat) : 0 < threshold bias position := by
  simp only [threshold]; omega

/-- The bias that a scaled number of steps calls for. -/
def settle (delta position : Nat) : Nat :=
  if 455 < delta then settle (delta / 35) (position + 36)
  else position + 36 * delta / (delta + 38)
termination_by delta

/-- The bias after a number of steps has been written, where the text then has `size` characters. -/
def adapt (delta size : Nat) (first : Bool) : Nat :=
  let scaled := if first then delta / 700 else delta / 2
  settle (scaled + scaled / size) 0

def writeSteps (bias position steps : Nat) : List Char :=
  if steps < threshold bias position then [digit steps]
  else
    let beyond := steps - threshold bias position
    let weight := 36 - threshold bias position
    digit (threshold bias position + beyond % weight) ::
      writeSteps bias (position + 36) (beyond / weight)
termination_by steps
decreasing_by
  have := threshold_pos bias position
  have := Nat.div_le_self (steps - threshold bias position) (36 - threshold bias position)
  omega

structure Encoder where
  output : List Char
  delta : Nat
  bias : Nat
  size : Nat

/-- Passes a character while those with one code are written. -/
def Encoder.pass (basic code : Nat) (encoder : Encoder) (c : Char) : Encoder :=
  if c.toNat < code then { encoder with delta := encoder.delta + 1 }
  else if c.toNat = code then
    { output := encoder.output ++ writeSteps encoder.bias 36 encoder.delta
      delta := 0
      bias := adapt encoder.delta (encoder.size + 1) (encoder.size = basic)
      size := encoder.size + 1 }
  else encoder

def isBasic (c : Char) : Bool := c.toNat < 0x80

def encode (text : List Char) : List Char :=
  let basic := text.filter isBasic
  let codes := (((text.filter (!isBasic ·)).map Char.toNat).mergeSort (· ≤ ·)).eraseDups
  let start : Encoder :=
    { output := if basic = [] then [] else basic ++ ['-']
      delta := 0
      bias := 72
      size := basic.length }
  let finish := codes.foldl (fun (encoder, next) code =>
    let ahead := { encoder with delta := encoder.delta + (code - next) * (encoder.size + 1) }
    let passed := text.foldl (Encoder.pass basic.length code) ahead
    ({ passed with delta := passed.delta + 1 }, code + 1)) (start, 0x80)
  finish.1.output

/-- Reads a number of steps: digits from a position on, of a weight, on top of a value. -/
def readSteps (bias : Nat) : Nat → Nat → Nat → List Char → Option (Nat × List Char)
  | _, _, _, [] => none
  | position, weight, value, c :: rest =>
    match digitValue? c with
    | none => none
    | some d =>
      let least := threshold bias position
      if d < least then some (value + d * weight, rest)
      else readSteps bias (position + 36) (weight * (36 - least)) (value + d * weight) rest

/--
Reads the characters that follow the ASCII ones.  `place` counts the steps since
the first place of the code `code`; `fuel` bounds the number of characters.
-/
def insertAll : Nat → Nat → Nat → Nat → List Char → List Char → Option (List Char)
  | _, _, _, _, text, [] => some text
  | 0, _, _, _, _, _ => none
  | fuel + 1, bias, code, place, text, digits =>
    match readSteps bias 36 1 place digits with
    | none => none
    | some (reached, rest) =>
      let size := text.length + 1
      let code := code + reached / size
      if Nat.isValidChar code then
        let next := reached % size
        let longer := text.take next ++ Char.ofNat code :: text.drop next
        insertAll fuel (adapt (reached - place) size (place = 0)) code (next + 1) longer rest
      else none

def decode (form : List Char) : Option (List Char) :=
  let (basic, digits) :=
    match Text.splitLast '-' form with
    | some (c :: before, after) => (c :: before, after)
    | _ => ([], form)
  if basic.all isBasic then insertAll digits.length 72 0x80 0 basic digits else none

end AccountKeeper.Url.Punycode
