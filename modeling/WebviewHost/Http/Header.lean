import WebviewHost.Files.Disk
import WebviewHost.Text.Blank
import WebviewHost.Text.Utf8

/-!
# Headers

The headers of a message in the order in which they came, names in lower case. Some belong to one
connection only: eight by their names, and those that a `connection` header nominates.
-/

set_option autoImplicit false

namespace WebviewHost.Http

open WebviewHost.Files (splitAt)
open WebviewHost.Text (encodeUtf8 trimBlanks)

/-- A header: its name in lower case, and the bytes of its value. -/
structure Header where
  name : String
  value : List UInt8
  deriving DecidableEq, Repr

/-- The headers of a message. A name may occur several times. -/
abbrev Headers := List Header

def Header.ofText (name value : String) : Header := ⟨name, encodeUtf8 value⟩

def isNameChar (c : Char) : Bool :=
  c.isAlphanum || "!#$%&'*+-.^_\x60|~".toList.contains c

def headerName? (text : List Char) : Option String :=
  if !text.isEmpty && text.all isNameChar then some (String.ofList (text.map Char.toLower))
  else none

/-- A byte that a header value may hold: no control character except the tab. -/
def isValueByte (byte : UInt8) : Bool := byte = 0x09 || (0x20 ≤ byte && byte ≠ 0x7f)

def Header.make? (name : String) (value : List UInt8) : Option Header :=
  match headerName? name.toList with
  | some name => if value.all isValueByte then some ⟨name, value⟩ else none
  | none => none

namespace Headers

def values (headers : Headers) (name : String) : List (List UInt8) :=
  (headers.filter (·.name = name)).map (·.value)

def has (headers : Headers) (name : String) : Bool := headers.any (·.name = name)

def without (headers : Headers) (name : String) : Headers := headers.filter (·.name ≠ name)

def withDefault (headers : Headers) (header : Header) : Headers :=
  if headers.has header.name then headers else headers ++ [header]

end Headers

/-! ## Headers of one connection -/

def hopByHop : List String :=
  ["connection", "keep-alive", "proxy-authenticate", "proxy-authorization", "te", "trailer",
    "transfer-encoding", "upgrade"]

/-- The text of a value, if it holds nothing but visible ASCII characters, spaces and tabs. -/
def visibleText? (value : List UInt8) : Option (List Char) :=
  if value.all fun byte => byte = 0x09 || (0x20 ≤ byte && byte < 0x7f) then
    some (value.map fun byte => Char.ofNat byte.toNat)
  else none

/-- The names that a value nominates: its elements between commas, as far as they are names. -/
def nominatedBy (value : List UInt8) : List String :=
  match visibleText? value with
  | none => []
  | some text => (splitAt ',' text).filterMap fun element => headerName? (trimBlanks element)

def nominated (headers : Headers) : List String :=
  (headers.values "connection").flatMap nominatedBy

def endToEnd (headers : Headers) : Headers :=
  (hopByHop ++ nominated headers).foldl Headers.without headers

end WebviewHost.Http
