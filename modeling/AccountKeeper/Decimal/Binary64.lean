/-!
# Binary floating-point numbers and their decimal forms

A number of the 64-bit binary format is kept as an exact multiple of a power of
two.  `Binary64.ofDecimal` rounds a decimal number to the nearest such number,
ties to the even one; `Binary64.shortest` finds the fewest decimal digits that
round back to the number, and among those the digits nearest to it.
-/

set_option autoImplicit false

namespace AccountKeeper

inductive Binary64 where
  | nan
  | infinity (negative : Bool)
  /-- The number `mantissa * 2 ^ exponent`, with its sign. -/
  | finite (negative : Bool) (mantissa : Nat) (exponent : Int)
  deriving DecidableEq, Repr

namespace Binary64

def leastExponent : Int := -1074

def greatestExponent : Int := 971

/-- `numerator / denominator`, rounded to the nearest whole number, ties to even. -/
def roundQuotient (numerator denominator : Nat) : Nat :=
  let quotient := numerator / denominator
  let rest := 2 * (numerator % denominator)
  if rest < denominator then quotient
  else if denominator < rest then quotient + 1
  else quotient + quotient % 2

def scaleBinary (numerator denominator : Nat) (exponent : Int) : Nat × Nat :=
  if exponent < 0 then (numerator * Nat.pow 2 exponent.natAbs, denominator)
  else (numerator, denominator * Nat.pow 2 exponent.natAbs)

/-- The exponent at which a positive quotient has a mantissa of 53 bits, or the least exponent. -/
def mantissaExponent (numerator denominator : Nat) : Int :=
  let guess : Int := (numerator.log2 : Int) - (denominator.log2 : Int) - 52
  let (n, d) := scaleBinary numerator denominator guess
  let exact := if n / d < Nat.pow 2 52 then guess - 1 else guess
  max exact leastExponent

def ofQuotient (negative : Bool) (numerator denominator : Nat) : Binary64 :=
  if numerator = 0 then .finite negative 0 leastExponent
  else
    let exponent := mantissaExponent numerator denominator
    let (n, d) := scaleBinary numerator denominator exponent
    let mantissa := roundQuotient n d
    let (mantissa, exponent) :=
      if mantissa = Nat.pow 2 53 then (Nat.pow 2 52, exponent + 1) else (mantissa, exponent)
    if greatestExponent < exponent then .infinity negative else .finite negative mantissa exponent

def digitCount (n : Nat) : Nat :=
  (Nat.toDigits 10 n).length

def ofDecimal (negative : Bool) (digits : Nat) (exponent : Int) : Binary64 :=
  let magnitude := (digitCount digits : Int) + exponent
  if digits = 0 ∨ magnitude < -400 then .finite negative 0 leastExponent
  else if 400 < magnitude then .infinity negative
  else if exponent < 0 then ofQuotient negative digits (Nat.pow 10 exponent.natAbs)
  else ofQuotient negative (digits * Nat.pow 10 exponent.natAbs) 1

/-! ## Shortest digits -/

/-- Decimal digits `digits` standing for `digits * 10 ^ exponent`. -/
structure DecimalForm where
  digits : Nat
  exponent : Int
  deriving DecidableEq, Repr

/-- Compares `a * 10 ^ p` with `b * 2 ^ q`. -/
def comparePowers (a : Nat) (p : Int) (b : Nat) (q : Int) : Ordering :=
  let left := a * Nat.pow 10 p.toNat * Nat.pow 2 (-q).toNat
  let right := b * Nat.pow 2 q.toNat * Nat.pow 10 (-p).toNat
  compare left right

/-- Largest `k` with `10 ^ k ≤ mantissa * 2 ^ exponent`, for a positive mantissa. -/
def decimalExponent (mantissa : Nat) (exponent : Int) : Int :=
  let numerator := mantissa * Nat.pow 2 exponent.toNat
  let denominator := Nat.pow 2 (-exponent).toNat
  if denominator ≤ numerator then (digitCount (numerator / denominator) : Int) - 1
  else
    let size := digitCount (denominator / numerator)
    if denominator ≤ numerator * Nat.pow 10 (size - 1) then 1 - (size : Int) else -(size : Int)

/--
Whether `digits * 10 ^ p` rounds to `mantissa * 2 ^ exponent`: it lies between
the midpoints to the neighbours, the midpoints counting for even mantissas.
-/
def roundsTo (mantissa : Nat) (exponent : Int) (digits : Nat) (p : Int) : Bool :=
  let below := if mantissa = Nat.pow 2 52 ∧ leastExponent < exponent then 4 * mantissa - 1
    else 4 * mantissa - 2
  let low := comparePowers digits p below (exponent - 2)
  let high := comparePowers digits p (4 * mantissa + 2) (exponent - 2)
  if mantissa % 2 = 0 then low ≠ .lt && high ≠ .gt else low = .gt && high = .lt

/-- The two multiples of `10 ^ p` around `mantissa * 2 ^ exponent`, the nearer one first. -/
def neighbours (mantissa : Nat) (exponent p : Int) : List Nat :=
  let numerator := mantissa * Nat.pow 2 exponent.toNat * Nat.pow 10 (-p).toNat
  let denominator := Nat.pow 2 (-exponent).toNat * Nat.pow 10 p.toNat
  let floor := numerator / denominator
  if 2 * (numerator % denominator) ≤ denominator then [floor, floor + 1] else [floor + 1, floor]

def shortestFrom (mantissa : Nat) (exponent top : Int) : Nat → Nat → DecimalForm
  | 0, _ => ⟨mantissa, exponent⟩
  | fuel + 1, count =>
    let p := top - (count : Int) + 1
    match (neighbours mantissa exponent p).find? (roundsTo mantissa exponent · p) with
    | some digits => ⟨digits, p⟩
    | none => shortestFrom mantissa exponent top fuel (count + 1)

/-- The fewest decimal digits that round to the positive number `mantissa * 2 ^ exponent`. -/
def shortest (mantissa : Nat) (exponent : Int) : DecimalForm :=
  shortestFrom mantissa exponent (decimalExponent mantissa exponent) 17 1

/-- Digits without an exponent: `1200`, `12.5`, `0.00125`; whole numbers get the tail `.0`. -/
def positional (form : DecimalForm) : String :=
  let digits := Nat.toDigits 10 form.digits
  if 0 ≤ form.exponent then
    String.ofList (digits ++ List.replicate form.exponent.toNat '0') ++ ".0"
  else
    let places := form.exponent.natAbs
    let padded := List.replicate (places + 1 - digits.length) '0' ++ digits
    let whole := padded.take (padded.length - places)
    let part := padded.drop (padded.length - places)
    let kept := (part.reverse.dropWhile (· = '0')).reverse
    String.ofList (whole ++ '.' :: (if kept = [] then ['0'] else kept))

def finiteText (negative : Bool) (mantissa : Nat) (exponent : Int) : String :=
  (if negative then "-" else "") ++
    (if mantissa = 0 then "0.0" else positional (shortest mantissa exponent))

end Binary64

end AccountKeeper
