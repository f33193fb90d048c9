/-!
# Finite doubles

A double is held as its sign, an integer significand and a power of two, so that rounding,
products and quotients are integer arithmetic. Infinities and not-a-number have no place here: an
operation that would leave the range gives no result.
-/

set_option autoImplicit false

namespace WebviewHost.Number

/-- The magnitude `significand · 2 ^ exponent`. -/
structure Magnitude where
  significand : Nat
  exponent : Int
  deriving DecidableEq, Repr

/-- A magnitude with a sign. Zero has two signs. -/
structure Binary64 where
  negative : Bool
  magnitude : Magnitude
  deriving DecidableEq, Repr

def leastExponent : Int := -1074

def greatestExponent : Int := 971

/-- A quotient rounded to the nearest integer, a half going to the even neighbour. -/
def roundHalfEven (numerator denominator : Nat) : Nat :=
  let quotient := numerator / denominator
  let remainder := numerator % denominator
  if 2 * remainder < denominator then quotient
  else if denominator < 2 * remainder then quotient + 1
  else quotient + quotient % 2

def overPowerOfTwo (numerator denominator : Nat) : Int → Nat × Nat
  | .ofNat exponent => (numerator, denominator <<< exponent)
  | .negSucc exponent => (numerator <<< (exponent + 1), denominator)

/-- The exponent of the power of two at or just below a positive fraction. -/
def binade (numerator denominator : Nat) : Int :=
  let estimate : Int := (numerator.log2 : Int) - (denominator.log2 : Int)
  let (scaled, unit) := overPowerOfTwo numerator denominator estimate
  if scaled < unit then estimate - 1 else estimate

/-- The double nearest to a fraction, a tie going to the even significand. There is none if the
fraction is beyond the largest double. -/
def roundFraction (numerator denominator : Nat) : Option Magnitude :=
  if numerator = 0 then some ⟨0, leastExponent⟩ else
    let exponent := max (binade numerator denominator - 52) leastExponent
    let (scaled, unit) := overPowerOfTwo numerator denominator exponent
    let significand := roundHalfEven scaled unit
    let rounded : Magnitude :=
      if significand = Nat.pow 2 53 then ⟨Nat.pow 2 52, exponent + 1⟩
      else ⟨significand, exponent⟩
    if greatestExponent < rounded.exponent then none else some rounded

namespace Magnitude

def zero : Magnitude := ⟨0, leastExponent⟩

def times (left right : Magnitude) : Option Magnitude :=
  let (numerator, denominator) :=
    overPowerOfTwo (left.significand * right.significand) 1 (-(left.exponent + right.exponent))
  roundFraction numerator denominator

def dividedBy (left right : Magnitude) : Option Magnitude :=
  let (numerator, denominator) :=
    overPowerOfTwo left.significand right.significand (right.exponent - left.exponent)
  roundFraction numerator denominator

end Magnitude

end WebviewHost.Number
