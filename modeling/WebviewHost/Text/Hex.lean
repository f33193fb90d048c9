/-!
# Hexadecimal digits

Digits of either case are read; lower case is written.
-/

set_option autoImplicit false

namespace WebviewHost.Text

/-- The value of a hexadecimal digit of either case. -/
def hexValue? (c : Char) : Option Nat :=
  if '0' ≤ c && c ≤ '9' then some (c.toNat - '0'.toNat)
  else if 'a' ≤ c && c ≤ 'f' then some (c.toNat - 'a'.toNat + 10)
  else if 'A' ≤ c && c ≤ 'F' then some (c.toNat - 'A'.toNat + 10)
  else none

def hexNumber? (digits : List Char) : Option Nat :=
  digits.foldlM (fun n c => (hexValue? c).map (16 * n + ·)) 0

/-- The digits of a number, without padding. -/
def hexDigits (n : Nat) : List Char := Nat.toDigits 16 n

end WebviewHost.Text
