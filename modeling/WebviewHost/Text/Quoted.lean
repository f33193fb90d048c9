import WebviewHost.Text.Hex
import WebviewHost.Text.Unprinted

/-!
# Quoted text

How a message quotes a text that a user wrote: between double quotes, with every character that
could hide or end the quotation written by an escape.
-/

set_option autoImplicit false

namespace WebviewHost.Text

/-- One character inside a quotation. A single quote needs no escape there. -/
def quoteChar (c : Char) : List Char :=
  match c with
  | '"' => ['\\', '"']
  | '\\' => ['\\', '\\']
  | '\t' => ['\\', 't']
  | '\n' => ['\\', 'n']
  | '\r' => ['\\', 'r']
  | '\x00' => ['\\', '0']
  | c => if isUnprinted c then ['\\', 'u', '\x7b'] ++ hexDigits c.toNat ++ ['\x7d'] else [c]

def quoted (text : String) : String :=
  String.ofList ('"' :: text.toList.flatMap quoteChar ++ ['"'])

end WebviewHost.Text
