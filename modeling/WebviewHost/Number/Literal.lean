import WebviewHost.Number.Shortest

/-!
# Number literals

A number is an exact integer of 64 bits or a double. A literal without fraction and exponent is an
integer wherever one fits; every other literal is a double. The digits of a double are collected
in a 64-bit significand, which is rounded and then scaled by a rounded power of ten, so the last
bit of a long literal may differ from the correctly rounded one.
-/

set_option autoImplicit false

namespace WebviewHost

inductive Number where
  | integer (value : Int)
  | double (value : Number.Binary64)
  deriving DecidableEq, Repr

end WebviewHost

namespace WebviewHost.Number

def text : Number → List Char
  | .integer (.ofNat n) => decimalDigits n
  | .integer (.negSucc n) => '-' :: decimalDigits (n + 1)
  | .double value => value.text

/-- A literal, split into its parts. Digits are kept as numbers below ten. -/
structure Literal where
  negative : Bool
  whole : List Nat
  fraction : List Nat
  exponent : Option Int
  deriving DecidableEq, Repr

def digit? (c : Char) : Option Nat :=
  if '0' ≤ c && c ≤ '9' then some (c.toNat - '0'.toNat) else none

def takeDigits : List Char → List Nat × List Char
  | [] => ([], [])
  | c :: rest =>
      match digit? c with
      | some digit =>
          let (digits, rest) := takeDigits rest
          (digit :: digits, rest)
      | none => ([], c :: rest)

/-- The number that digits denote, the most significant first. -/
def ofDigits (digits : List Nat) : Nat := digits.foldl (fun n digit => 10 * n + digit) 0

/-- The fraction of a literal: a point and at least one digit, or nothing. -/
def takeFraction? : List Char → Option (List Nat × List Char)
  | '.' :: rest =>
      match takeDigits rest with
      | ([], _) => none
      | (digits, rest) => some (digits, rest)
  | rest => some ([], rest)

/-- The digits of an exponent, of which there must be one. -/
def takeExponentDigits? (negative : Bool) (text : List Char) :
    Option (Option Int × List Char) :=
  match takeDigits text with
  | ([], _) => none
  | (digits, rest) =>
      let magnitude : Int := ofDigits digits
      some (some (if negative then -magnitude else magnitude), rest)

/-- The exponent of a literal: a letter, an optional sign and at least one digit, or nothing. -/
def takeExponent? : List Char → Option (Option Int × List Char)
  | [] => some (none, [])
  | c :: rest =>
      if c = 'e' || c = 'E' then
        match rest with
        | '+' :: rest => takeExponentDigits? false rest
        | '-' :: rest => takeExponentDigits? true rest
        | rest => takeExponentDigits? false rest
      else some (none, c :: rest)

/-- A literal without its sign. A leading zero stands alone before the point. -/
def takeUnsigned? (negative : Bool) (text : List Char) : Option (Literal × List Char) :=
  match takeDigits text with
  | ([], _) => none
  | (0 :: _ :: _, _) => none
  | (whole, rest) => do
      let (fraction, rest) ← takeFraction? rest
      let (exponent, rest) ← takeExponent? rest
      return (⟨negative, whole, fraction, exponent⟩, rest)

def takeLiteral? : List Char → Option (Literal × List Char)
  | '-' :: rest => takeUnsigned? true rest
  | text => takeUnsigned? false text

/-- Collect digits while the significand stays below `2 ^ 64`; the first digit that does not fit
and all after it are left over. -/
def collect : Nat → List Nat → Nat × List Nat
  | significand, [] => (significand, [])
  | significand, digit :: rest =>
      if 10 * significand + digit < Nat.pow 2 64 then collect (10 * significand + digit) rest
      else (significand, digit :: rest)

/-- The double nearest to a power of ten. It exists for exponents up to 308. -/
def powerOfTen (exponent : Nat) : Magnitude :=
  (roundFraction (Nat.pow 10 exponent) 1).getD .zero

/-- Divide a double by `10 ^ 308` a number of times, stopping at zero. -/
def Magnitude.shrink : Nat → Magnitude → Option Magnitude
  | 0, magnitude => some magnitude
  | steps + 1, magnitude =>
      if magnitude.significand = 0 then some magnitude
      else (magnitude.dividedBy (powerOfTen 308)).bind (shrink steps)

/-- Scale a double by a power of ten, rounding at each step. Powers beyond `10 ^ 308` are divided
out in steps of that size; a product beyond the range has no result, unless the double is zero. -/
def Magnitude.scaleDecimal (magnitude : Magnitude) (exponent : Int) : Option Magnitude :=
  if magnitude.significand = 0 then some magnitude
  else if 308 < exponent then none
  else if 0 ≤ exponent then magnitude.times (powerOfTen exponent.toNat)
  else
    let places := (-exponent).toNat
    let steps := (places - 1) / 308
    (magnitude.shrink steps).bind (·.dividedBy (powerOfTen (places - 308 * steps)))

def Literal.double? (literal : Literal) : Option Binary64 := do
  let (significand, dropped) := collect 0 literal.whole
  let (significand, unused) := collect significand literal.fraction
  let scale : Int := (dropped.length : Int) - (literal.fraction.length - unused.length : Nat)
  let rounded ← roundFraction significand 1
  let magnitude ← rounded.scaleDecimal (scale + literal.exponent.getD 0)
  return ⟨literal.negative, magnitude⟩

/-- The number a literal denotes. A negative zero is a double, since integers have one zero. -/
def Literal.number? (literal : Literal) : Option Number :=
  let whole := ofDigits literal.whole
  let integral := literal.fraction.isEmpty && literal.exponent.isNone
  if integral && !literal.negative && whole < Nat.pow 2 64 then some (.integer whole)
  else if integral && literal.negative && 0 < whole && whole ≤ Nat.pow 2 63 then
    some (.integer (-(whole : Int)))
  else literal.double?.map .double

end WebviewHost.Number
