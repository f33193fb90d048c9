import WebviewHost.Number.Binary64

/-!
# Shortest decimal text of a double

The fewest digits that read back as the same double and, of those, the digits nearest to it.
The text is positional for magnitudes from 0.00001 up to 10 ^ 16 and has an exponent elsewhere.
-/

set_option autoImplicit false

namespace WebviewHost.Number

def decimalDigits (n : Nat) : List Char := Nat.toDigits 10 n

/-- The value `digits · 10 ^ exponent`. -/
structure Decimal where
  digits : Nat
  exponent : Int
  deriving DecidableEq, Repr

/-- The exponent of the power of ten at or just below a positive fraction. -/
def decade (numerator denominator : Nat) : Int :=
  if denominator ≤ numerator then
    ((decimalDigits (numerator / denominator)).length : Int) - 1
  else
    -((decimalDigits ((denominator - 1) / numerator)).length : Int)

def overPowerOfTen (numerator denominator : Nat) : Int → Nat × Nat
  | .ofNat exponent => (numerator, denominator * Nat.pow 10 exponent)
  | .negSucc exponent => (numerator * Nat.pow 10 (exponent + 1), denominator)

/-- The decimals that read back as a magnitude lie between `low` and `high`, both counted in
quarters of its unit in the last place; the two ends read back only if the significand is even. -/
structure ReadBack where
  low : Nat
  high : Nat
  inclusive : Bool

/-- Below a power of two the doubles lie twice as dense, so the interval is shorter there. -/
def Magnitude.readBack (magnitude : Magnitude) : ReadBack :=
  let quarters := 4 * magnitude.significand
  let below :=
    if magnitude.significand = Nat.pow 2 52 && leastExponent < magnitude.exponent then 1 else 2
  ⟨quarters - below, quarters + 2, magnitude.significand % 2 = 0⟩

/-- Whether the fraction `numerator / denominator`, counted in quarters, reads back. -/
def ReadBack.holds (interval : ReadBack) (numerator denominator : Nat) : Bool :=
  if interval.inclusive then
    interval.low * denominator ≤ numerator && numerator ≤ interval.high * denominator
  else
    interval.low * denominator < numerator && numerator < interval.high * denominator

/-- A decimal without its trailing zeros. The first argument bounds their number. -/
def Decimal.trim : Nat → Decimal → Decimal
  | 0, decimal => decimal
  | count + 1, decimal =>
      if decimal.digits % 10 = 0 then trim count ⟨decimal.digits / 10, decimal.exponent + 1⟩
      else decimal

/-- The nearest decimal that reads back among the two neighbours of the magnitude on the grid of
multiples of `10 ^ exponent`. -/
def Magnitude.onGrid? (magnitude : Magnitude) (exponent : Int) : Option Decimal :=
  let (numerator, denominator) := overPowerOfTwo magnitude.significand 1 (-magnitude.exponent)
  let (scaled, unit) := overPowerOfTen numerator denominator exponent
  let below := scaled / unit
  let remainder := scaled % unit
  let reads (digits : Nat) : Bool :=
    -- `digits · 10 ^ exponent`, in quarters of the unit in the last place
    let (up, down) := overPowerOfTen (4 * digits) 1 (-exponent)
    let (up, down) := overPowerOfTwo up down magnitude.exponent
    magnitude.readBack.holds up down
  let nearer := if 2 * remainder < unit || (2 * remainder = unit && below % 2 = 0)
    then (below, below + 1) else (below + 1, below)
  if reads nearer.1 then some ⟨nearer.1, exponent⟩
  else if reads nearer.2 then some ⟨nearer.2, exponent⟩
  else none

/-- The first hit on grids of one, two, … digits. Seventeen digits always suffice. -/
def Magnitude.shortest (magnitude : Magnitude) : Decimal :=
  let (numerator, denominator) := overPowerOfTwo magnitude.significand 1 (-magnitude.exponent)
  let top := decade numerator denominator
  let candidates := (List.range 17).filterMap fun (more : Nat) => magnitude.onGrid? (top - more)
  (candidates.head?.getD ⟨magnitude.significand, magnitude.exponent⟩).trim 20

/-- Where positional text begins and ends, as exponents of the leading digit. -/
def leastPositional : Int := -5

/-- The first exponent of the leading digit that is written out. -/
def firstExponential : Int := 16

/-- The text of `digits · 10 ^ exponent`, with a fraction digit or an exponent in every case. -/
def Decimal.text (decimal : Decimal) : List Char :=
  let digits := decimalDigits decimal.digits
  let leading : Int := decimal.exponent + digits.length - 1
  if leastPositional ≤ leading && leading < firstExponential then
    if 0 ≤ decimal.exponent then
      digits ++ List.replicate decimal.exponent.toNat '0' ++ ['.', '0']
    else if 0 ≤ leading then
      digits.take (leading.toNat + 1) ++ '.' :: digits.drop (leading.toNat + 1)
    else
      '0' :: '.' :: List.replicate (-leading - 1).toNat '0' ++ digits
  else
    let fraction := if digits.length ≤ 1 then [] else '.' :: digits.drop 1
    let sign := if leading < 0 then '-' else '+'
    digits.take 1 ++ fraction ++ 'e' :: sign :: decimalDigits leading.natAbs

def Binary64.text (value : Binary64) : List Char :=
  let magnitude :=
    if value.magnitude.significand = 0 then ['0', '.', '0'] else value.magnitude.shortest.text
  if value.negative then '-' :: magnitude else magnitude

end WebviewHost.Number
