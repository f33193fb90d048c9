import WebviewHost.Files.Disk
import WebviewHost.Text.Hex

/-!
# IP addresses

Reading and writing IPv4 and IPv6 addresses in their usual notations.
-/

set_option autoImplicit false

namespace WebviewHost.Network

open WebviewHost.Files (splitAt)
open WebviewHost.Text (hexDigits hexNumber?)

/-- An IP address by its parts: four bytes, or eight numbers of 16 bits. -/
inductive IpAddress where
  | v4 (parts : List Nat)
  | v6 (parts : List Nat)
  deriving DecidableEq, Repr

/-- The number that decimal digits denote. There has to be at least one. -/
def decimal? (digits : List Char) : Option Nat :=
  if !digits.isEmpty && digits.all Char.isDigit then
    some (digits.foldl (fun n c => 10 * n + (c.toNat - '0'.toNat)) 0)
  else none

/-- A decimal number of 16 bits. -/
def port? (digits : List Char) : Option Nat := (decimal? digits).filter (· < 65536)

/-- A byte in decimal without a leading zero. -/
def byte? (digits : List Char) : Option Nat :=
  if digits.head? = some '0' && digits.length ≠ 1 then none
  else (decimal? digits).filter (· < 256)

def ipv4? (text : List Char) : Option (List Nat) :=
  let parts := splitAt '.' text
  if parts.length = 4 then parts.mapM byte? else none

/-- One to four hexadecimal digits. -/
def hexGroup? (text : List Char) : Option Nat :=
  if !text.isEmpty && text.length ≤ 4 then hexNumber? text else none

/-- Groups of 16 bits with colons between them. The last may be an IPv4 address, which counts
twice. No text is no groups. -/
def hexGroups? (text : List Char) : Option (List Nat) :=
  if text.isEmpty then some []
  else
    let parts := splitAt ':' text
    match parts.getLast? with
    | none => none
    | some last =>
        match parts.dropLast.mapM hexGroup?, hexGroup? last, ipv4? last with
        | some groups, some group, _ => some (groups ++ [group])
        | some groups, none, some [a, b, c, d] => some (groups ++ [256 * a + b, 256 * c + d])
        | _, _, _ => none

def splitAtPair? : List Char → Option (List Char × List Char)
  | ':' :: ':' :: rest => some ([], rest)
  | c :: rest => (splitAtPair? rest).map fun (before, after) => (c :: before, after)
  | [] => none

/-- An IPv6 address. A pair of colons stands for as many zeros as are missing, of which there is
at least one. -/
def ipv6? (text : List Char) : Option (List Nat) :=
  match splitAtPair? text with
  | none => (hexGroups? text).filter (·.length = 8)
  | some (before, after) =>
      match hexGroups? before, hexGroups? after with
      | some left, some right =>
          if before.contains '.' then none
          else if left.length + right.length < 8 then
            some (left ++ List.replicate (8 - left.length - right.length) 0 ++ right)
          else none
      | _, _ => none

def zerosAhead (parts : List Nat) : Nat := (parts.takeWhile (· = 0)).length

/-- Where the longest run of zeros begins and how long it is. Of equal runs the first counts. -/
def longestZeros : List Nat → Nat × Nat
  | [] => (0, 0)
  | part :: rest =>
      let here := zerosAhead (part :: rest)
      let (start, length) := longestZeros rest
      if length ≤ here then (0, here) else (start + 1, length)

def hexGroupsText (parts : List Nat) : List Char :=
  List.intercalate [':'] (parts.map hexDigits)

/-- An address as text. In an IPv6 address the longest run of zeros is left out, unless it is a
single one. -/
def IpAddress.text : IpAddress → List Char
  | .v4 parts => List.intercalate ['.'] (parts.map (Nat.toDigits 10))
  | .v6 parts =>
      let (start, length) := longestZeros parts
      if length < 2 then hexGroupsText parts
      else
        hexGroupsText (parts.take start) ++ [':', ':'] ++
          hexGroupsText (parts.drop (start + length))

end WebviewHost.Network
