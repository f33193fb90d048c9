import WebviewHost.Text.Hex

/-!
# Percent-decoding

An escape is a percent sign and two hexadecimal digits of either case and stands for one byte.
Anything else stands for itself, also a percent sign that begins no escape.
-/

set_option autoImplicit false

namespace WebviewHost.Text

def hexByte? (high low : Char) : Option UInt8 := do
  return UInt8.ofNat ((← hexValue? high) * 16 + (← hexValue? low))

def percentBytes : List Char → List UInt8
  | [] => []
  | '%' :: high :: low :: rest =>
      match hexByte? high low with
      | some byte => byte :: percentBytes rest
      | none => 0x25 :: percentBytes (high :: low :: rest)
  | c :: rest => String.utf8EncodeChar c ++ percentBytes rest

def percentDecode? (text : List Char) : Option String :=
  String.fromUTF8? ⟨(percentBytes text).toArray⟩

end WebviewHost.Text
