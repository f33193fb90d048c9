import WebviewHost.Network.Ip
import WebviewHost.Text.Percent
import WebviewHost.Text.Utf8

/-!
# Hosts of URLs

The host in a URL is a name, an IPv4 address in one of many notations, or an IPv6 address in
brackets. A name is kept in lower case; one with characters beyond ASCII is otherwise kept as it
is, and finding its address is left to the network.
-/

set_option autoImplicit false

namespace WebviewHost.Network

open WebviewHost.Files (splitAt)
open WebviewHost.Text (decodeUtf8Lossy hexValue? percentBytes)

inductive Host where
  | name (text : String)
  | ip (address : IpAddress)
  deriving DecidableEq, Repr

def Host.text : Host → String
  | .name text => text
  | .ip (.v4 parts) => String.ofList (IpAddress.v4 parts).text
  | .ip (.v6 parts) => String.ofList (['['] ++ (IpAddress.v6 parts).text ++ [']'])

def isForbiddenInName (c : Char) : Bool :=
  c.toNat ≤ 0x20 || c.toNat = 0x7f || "\"#%/:<>?@[\\]^\x60\x7b|\x7d".toList.contains c

/-- The number that digits of a base denote. No digits denote zero. -/
def numberIn? (base : Nat) (digits : List Char) : Option Nat :=
  digits.foldlM (fun n c =>
    match hexValue? c with
    | some value => if value < base then some (base * n + value) else none
    | none => none) 0

/-- A part of an IPv4 address: hexadecimal after `0x`, octal after `0`, else decimal. -/
def ipv4Number? : List Char → Option Nat
  | [] => none
  | '0' :: 'x' :: digits | '0' :: 'X' :: digits => numberIn? 16 digits
  | '0' :: digits => numberIn? 8 digits
  | digits => numberIn? 10 digits

/-- The parts of a name between its dots. A dot at the end adds none. -/
def nameParts (name : List Char) : List (List Char) :=
  let parts := splitAt '.' name
  if parts.length ≠ 1 && parts.getLast? = some [] then parts.dropLast else parts

/-- A name whose last part is a number has to be an IPv4 address. -/
def endsInNumber (name : List Char) : Bool :=
  match (nameParts name).getLast? with
  | none => false
  | some last => (decimal? last).isSome || (last ≠ [] && (last.head? = some '0') &&
      (ipv4Number? last).isSome)

/-- A number as so many bytes, the most significant first, unless it needs more. -/
def bytesOf? : Nat → Nat → Option (List Nat)
  | 0, n => if n = 0 then some [] else none
  | count + 1, n => (bytesOf? count (n / 256)).map (· ++ [n % 256])

/-- The bytes of an IPv4 address that was written as numbers. The last number stands for all bytes
that the others leave over. -/
def ipv4OfNumbers? (numbers : List Nat) : Option (List Nat) :=
  match numbers.getLast? with
  | none => none
  | some last =>
      let leading := numbers.dropLast
      if 3 < leading.length || leading.any (255 < ·) then none
      else (bytesOf? (4 - leading.length) last).map (leading ++ ·)

def hostOfName? (name : List Char) : Option Host :=
  if name.isEmpty || name.any isForbiddenInName then none
  else if endsInNumber name then
    (((nameParts name).mapM ipv4Number?).bind ipv4OfNumbers?).map fun parts => .ip (.v4 parts)
  else some (.name (String.ofList name))

def host? : List Char → Option Host
  | '[' :: rest =>
      if rest.getLast? = some ']' then (ipv6? rest.dropLast).map fun parts => .ip (.v6 parts)
      else none
  | text => hostOfName? ((decodeUtf8Lossy (percentBytes text)).toList.map Char.toLower)

end WebviewHost.Network
