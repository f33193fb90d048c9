/-!
# Base64

The encoding of bytes by 64 characters, with padding.
-/

set_option autoImplicit false

namespace WebviewHost.Text

def base64Alphabet : List Char :=
  "ABCDEFGHIJKLMNOPQRSTUVWXYZabcdefghijklmnopqrstuvwxyz0123456789+/".toList

def base64Char (n : Nat) : Char := (base64Alphabet[n % 64]?).getD '='

/-- Encode bytes: three at a time as four characters, with padding after the last. -/
def base64 : List UInt8 → List Char
  | [] => []
  | [a] =>
      let n := a.toNat * 16
      [base64Char (n / 64), base64Char n, '=', '=']
  | [a, b] =>
      let n := (a.toNat * 256 + b.toNat) * 4
      [base64Char (n / 4096), base64Char (n / 64), base64Char n, '=']
  | a :: b :: c :: rest =>
      let n := (a.toNat * 256 + b.toNat) * 256 + c.toNat
      base64Char (n / 262144) :: base64Char (n / 4096) :: base64Char (n / 64) :: base64Char n ::
        base64 rest

end WebviewHost.Text
