import WebviewHost.Json.Basic
import WebviewHost.Text.Hex

/-!
# Reading JSON

A reader for one value with nothing but white space around it. It refuses texts that open more
arrays and objects at once than it is allowed; of members with one key the last one counts.
-/

set_option autoImplicit false

namespace WebviewHost.Json

open WebviewHost.Number (takeLiteral?)
open WebviewHost.Text (hexNumber?)

/-- How many arrays and objects may be open at once in a text that is read. -/
def depthLimit : Nat := 127

def isBlank (c : Char) : Bool := c = ' ' || c = '\n' || c = '\t' || c = '\r'

def skipBlanks (text : List Char) : List Char := text.dropWhile isBlank

def simpleEscape? : Char → Option Char
  | '"' => some '"'
  | '\\' => some '\\'
  | '/' => some '/'
  | 'b' => some '\x08'
  | 'f' => some '\x0c'
  | 'n' => some '\n'
  | 'r' => some '\r'
  | 't' => some '\t'
  | _ => none

def isHighSurrogate (unit : Nat) : Bool := 0xd800 ≤ unit && unit ≤ 0xdbff

def isLowSurrogate (unit : Nat) : Bool := 0xdc00 ≤ unit && unit ≤ 0xdfff

def pairChar (high low : Nat) : Char :=
  Char.ofNat (0x10000 + (high - 0xd800) * 0x400 + (low - 0xdc00))

/-- The rest of a string up to its closing quote, and what follows. Surrogates must come in pairs
and control characters must be escaped. -/
def takeString? : List Char → Option (List Char × List Char)
  | [] => none
  | '"' :: rest => some ([], rest)
  | '\\' :: 'u' :: a :: b :: c :: d :: rest =>
      match hexNumber? [a, b, c, d] with
      | none => none
      | some unit =>
          if isHighSurrogate unit then
            match rest with
            | '\\' :: 'u' :: a :: b :: c :: d :: rest =>
                match hexNumber? [a, b, c, d] with
                | none => none
                | some low =>
                    if isLowSurrogate low then
                      (takeString? rest).map fun (text, rest) => (pairChar unit low :: text, rest)
                    else none
            | _ => none
          else if isLowSurrogate unit then none
          else (takeString? rest).map fun (text, rest) => (Char.ofNat unit :: text, rest)
  | '\\' :: c :: rest =>
      match simpleEscape? c with
      | none => none
      | some meant => (takeString? rest).map fun (text, rest) => (meant :: text, rest)
  | c :: rest =>
      if c.toNat < 0x20 || c = '\\' then none
      else (takeString? rest).map fun (text, rest) => (c :: text, rest)

def dropWord? : List Char → List Char → Option (List Char)
  | [], text => some text
  | c :: word, d :: text => if c = d then dropWord? word text else none
  | _ :: _, [] => none

def takeScalar? (text : List Char) : Option (Json × List Char) :=
  match text with
  | '"' :: rest => (takeString? rest).map fun (text, rest) => (.string (String.ofList text), rest)
  | 'n' :: rest => (dropWord? "ull".toList rest).map fun rest => (.null, rest)
  | 't' :: rest => (dropWord? "rue".toList rest).map fun rest => (.bool true, rest)
  | 'f' :: rest => (dropWord? "alse".toList rest).map fun rest => (.bool false, rest)
  | text => do
      let (literal, rest) ← takeLiteral? text
      let number ← literal.number?
      return (.number number, rest)

mutual

/-- The value at the front of a text, and what follows it. The first argument bounds the work, the
second is how many more arrays and objects may be opened. -/
def takeValue? : Nat → Nat → List Char → Option (Json × List Char)
  | 0, _, _ => none
  | fuel + 1, allowance, text =>
      match text with
      | '[' :: rest =>
          match allowance with
          | 0 => none
          | allowance + 1 =>
              match skipBlanks rest with
              | ']' :: rest => some (.array [], rest)
              | rest => (takeItems? fuel allowance rest).map fun (items, rest) =>
                  (.array items, rest)
      | '\x7b' :: rest =>
          match allowance with
          | 0 => none
          | allowance + 1 =>
              match skipBlanks rest with
              | '\x7d' :: rest => some (.object [], rest)
              | rest => (takeMembers? fuel allowance rest).map fun (members, rest) =>
                  (.object (Members.ofList members), rest)
      | text => takeScalar? text

/-- The items of an array up to its closing bracket, of which there is at least one. -/
def takeItems? : Nat → Nat → List Char → Option (List Json × List Char)
  | 0, _, _ => none
  | fuel + 1, allowance, text =>
      match takeValue? fuel allowance text with
      | none => none
      | some (item, rest) =>
          match skipBlanks rest with
          | ']' :: rest => some ([item], rest)
          | ',' :: rest => (takeItems? fuel allowance (skipBlanks rest)).map fun (items, rest) =>
              (item :: items, rest)
          | _ => none

/-- The members of an object up to its closing brace, of which there is at least one. -/
def takeMembers? : Nat → Nat → List Char → Option (List (String × Json) × List Char)
  | 0, _, _ => none
  | fuel + 1, allowance, text =>
      match text with
      | '"' :: rest =>
          match takeString? rest with
          | none => none
          | some (key, rest) =>
              match skipBlanks rest with
              | ':' :: rest =>
                  match takeValue? fuel allowance (skipBlanks rest) with
                  | none => none
                  | some (value, rest) =>
                      match skipBlanks rest with
                      | '\x7d' :: rest => some ([(String.ofList key, value)], rest)
                      | ',' :: rest =>
                          (takeMembers? fuel allowance (skipBlanks rest)).map
                            fun (members, rest) => ((String.ofList key, value) :: members, rest)
                      | _ => none
              | _ => none
      | _ => none

end

/-- Read a text that may open up to `allowance` arrays and objects at once. A text of `n`
characters needs at most `2 n + 1` steps. -/
def readWithin? (allowance : Nat) (text : String) : Option Json :=
  let chars := text.toList
  match takeValue? (2 * chars.length + 1) allowance (skipBlanks chars) with
  | some (value, rest) => if (skipBlanks rest).isEmpty then some value else none
  | none => none

def read? (text : String) : Option Json := readWithin? depthLimit text

/-- Read the bytes of a text, which must be UTF-8. -/
def readBytes? (bytes : ByteArray) : Option Json := (String.fromUTF8? bytes).bind read?

end WebviewHost.Json
