import WebviewHost.Json.Basic
import WebviewHost.Text.Hex

/-!
# JSON text

The two written forms of a value: compact, without any white space, and pretty, with two spaces of
indentation for each level and no final line break. Both escape only what must be escaped.
-/

set_option autoImplicit false

namespace WebviewHost.Json

open WebviewHost.Text (hexDigits)

def hexUnit (unit : Nat) : List Char :=
  let digits := hexDigits unit
  List.replicate (4 - digits.length) '0' ++ digits

def escapeChar (c : Char) : List Char :=
  match c with
  | '"' => ['\\', '"']
  | '\\' => ['\\', '\\']
  | '\x08' => ['\\', 'b']
  | '\x0c' => ['\\', 'f']
  | '\n' => ['\\', 'n']
  | '\r' => ['\\', 'r']
  | '\t' => ['\\', 't']
  | c => if c.toNat < 0x20 then '\\' :: 'u' :: hexUnit c.toNat else [c]

def stringText (value : String) : List Char :=
  '"' :: value.toList.flatMap escapeChar ++ ['"']

def scalarText : Json → List Char
  | .bool true => "true".toList
  | .bool false => "false".toList
  | .number value => value.text
  | .string value => stringText value
  | _ => "null".toList

mutual

def compactText : Json → List Char
  | .array items => '[' :: compactItems items
  | .object members => '\x7b' :: compactMembers members
  | value => scalarText value

/-- The rest of a compact array after its opening bracket. -/
def compactItems : List Json → List Char
  | [] => [']']
  | [item] => compactText item ++ [']']
  | item :: rest => compactText item ++ ',' :: compactItems rest

/-- The rest of a compact object after its opening brace. -/
def compactMembers : List (String × Json) → List Char
  | [] => ['\x7d']
  | [(key, value)] => stringText key ++ ':' :: compactText value ++ ['\x7d']
  | (key, value) :: rest =>
      stringText key ++ ':' :: compactText value ++ ',' :: compactMembers rest

end

def newline (level : Nat) : List Char := '\n' :: List.replicate (2 * level) ' '

mutual

def prettyText (level : Nat) : Json → List Char
  | .array [] => ['[', ']']
  | .array items => '[' :: prettyItems level items
  | .object [] => ['\x7b', '\x7d']
  | .object members => '\x7b' :: prettyMembers level members
  | value => scalarText value

/-- The rest of a pretty array after its opening bracket or a comma. -/
def prettyItems (level : Nat) : List Json → List Char
  | [] => newline level ++ [']']
  | [item] => newline (level + 1) ++ prettyText (level + 1) item ++ newline level ++ [']']
  | item :: rest =>
      newline (level + 1) ++ prettyText (level + 1) item ++ ',' :: prettyItems level rest

/-- The rest of a pretty object after its opening brace or a comma. -/
def prettyMembers (level : Nat) : List (String × Json) → List Char
  | [] => newline level ++ ['\x7d']
  | [(key, value)] =>
      newline (level + 1) ++ stringText key ++ ':' :: ' ' :: prettyText (level + 1) value ++
        newline level ++ ['\x7d']
  | (key, value) :: rest =>
      newline (level + 1) ++ stringText key ++ ':' :: ' ' :: prettyText (level + 1) value ++
        ',' :: prettyMembers level rest

end

def compact (value : Json) : String := String.ofList value.compactText

def pretty (value : Json) : String := String.ofList (value.prettyText 0)

end WebviewHost.Json
