import WebviewHost.Network.HostName

/-!
# URLs

Reading a URL of the two web schemes as browsers do. Tabs and line breaks are dropped wherever they
are, a backslash counts as a slash before the query, all slashes after the scheme are skipped, the
credentials reach up to the last at-sign of the authority, and dot segments are resolved, also if
the dots are escaped.
-/

set_option autoImplicit false

namespace WebviewHost.Network

open WebviewHost.Files (splitAt)

inductive Scheme where
  | http
  | https
  deriving DecidableEq, Repr

def Scheme.port : Scheme → Nat
  | .http => 80
  | .https => 443

/-- A URL without its fragment. Credentials, path and query are escaped as far as they have to be;
a port that the scheme implies is not kept. -/
structure Url where
  scheme : Scheme
  username : List Char
  password : Option (List Char)
  host : Host
  port : Option Nat
  segments : List (List Char)
  query : Option (List Char)
  deriving DecidableEq, Repr

/-! ## Escapes -/

def upperHexDigit (n : Nat) : Char := (Nat.digitChar n).toUpper

def escapeByte (byte : UInt8) : List Char :=
  ['%', upperHexDigit (byte.toNat / 16), upperHexDigit (byte.toNat % 16)]

/-- Escape the characters that a set demands, and all that are not printable ASCII. -/
def escape (demanded : List Char) (text : List Char) : List Char :=
  text.flatMap fun c =>
    if c.toNat < 0x20 || 0x7e < c.toNat || demanded.contains c then
      (String.utf8EncodeChar c).flatMap escapeByte
    else [c]

def queryEscapes : List Char := " \"#<>'".toList

def pathEscapes : List Char := " \"#<>?^\x60\x7b\x7d".toList

def credentialEscapes : List Char := pathEscapes ++ "/:;=@[\\]|".toList

/-! ## Paths -/

/-- A slash, or the backslash that counts as one. -/
def isSlash (c : Char) : Bool := c = '/' || c = '\\'

def splitAtSlashes (text : List Char) : List (List Char) :=
  splitAt '/' (text.map fun c => if isSlash c then '/' else c)

/-- A segment with its escaped dots unescaped and its letters in lower case. -/
def plainDots : List Char → List Char
  | '%' :: '2' :: c :: rest =>
      if c = 'e' || c = 'E' then '.' :: plainDots rest else '%' :: '2' :: plainDots (c :: rest)
  | c :: rest => c :: plainDots rest
  | [] => []

/-- A segment that stands for the place it is at. -/
def isSingleDot (segment : List Char) : Bool := plainDots segment = ['.']

/-- A segment that stands for the place above. -/
def isDoubleDot (segment : List Char) : Bool := plainDots segment = ['.', '.']

/-- Go along segments. The first argument are the segments so far, from the end. Dots at the end
of a path leave an empty segment there. -/
def resolveSegments (above : List (List Char)) : List (List Char) → List (List Char)
  | [] => above.reverse
  | segment :: rest =>
      let above :=
        if isDoubleDot segment then
          if rest.isEmpty then [] :: above.drop 1 else above.drop 1
        else if isSingleDot segment then
          if rest.isEmpty then [] :: above else above
        else escape pathEscapes segment :: above
      resolveSegments above rest

/-! ## Reading -/

/-- A character that is dropped at both ends of a URL. -/
def isMargin (c : Char) : Bool := c.toNat ≤ 0x20

/-- A character that is dropped everywhere in a URL. -/
def isBreak (c : Char) : Bool := c = '\t' || c = '\n' || c = '\r'

def tidy (text : List Char) : List Char :=
  ((text.dropWhile isMargin).reverse.dropWhile isMargin).reverse.filter fun c => !isBreak c

def takeScheme? (text : List Char) : Option (Scheme × List Char) :=
  let name := (text.takeWhile (· ≠ ':')).map Char.toLower
  match text.dropWhile (· ≠ ':') with
  | ':' :: rest =>
      if name = "http".toList then some (.http, rest)
      else if name = "https".toList then some (.https, rest)
      else none
  | _ => none

def endsUrlAuthority (c : Char) : Bool := isSlash c || c = '?' || c = '#'

def splitCredentials (authority : List Char) : Option (List Char) × List Char :=
  let after := (authority.reverse.takeWhile (· ≠ '@')).reverse
  if authority.contains '@' then
    (some (authority.take (authority.length - after.length - 1)), after)
  else (none, authority)

/-- The host text and the port text of an authority without credentials. Colons in brackets belong
to the host. The first argument says whether a bracket is open. -/
def splitPort : Bool → List Char → List Char × Option (List Char)
  | _, [] => ([], none)
  | inBrackets, c :: rest =>
      if c = ':' && !inBrackets then ([], some rest)
      else
        let inBrackets := if c = '[' then true else if c = ']' then false else inBrackets
        let (host, port) := splitPort inBrackets rest
        (c :: host, port)

/-- The port that a text denotes, unless the scheme implies it. No text denotes no port. -/
def urlPort? (scheme : Scheme) : Option (List Char) → Option (Option Nat)
  | none | some [] => some none
  | some digits => (port? digits).map fun port => if port = scheme.port then none else some port

/-- The username and the password in credentials. An empty password is none. -/
def readCredentials : Option (List Char) → List Char × Option (List Char)
  | none => ([], none)
  | some credentials =>
      let username := credentials.takeWhile (· ≠ ':')
      let password := (credentials.dropWhile (· ≠ ':')).drop 1
      (escape credentialEscapes username,
        if password.isEmpty then none else some (escape credentialEscapes password))

def readPath (text : List Char) : List (List Char) × Option (List Char) :=
  let text := text.takeWhile (· ≠ '#')
  let path := text.takeWhile (· ≠ '?')
  let query :=
    match text.dropWhile (· ≠ '?') with
    | _ :: query => some (escape queryEscapes query)
    | [] => none
  (resolveSegments [] (splitAtSlashes (path.drop 1)), query)

namespace Url

def parse? (text : String) : Option Url := do
  let (scheme, rest) ← takeScheme? (tidy text.toList)
  let rest := rest.dropWhile isSlash
  let (credentials, authority) := splitCredentials (rest.takeWhile fun c => !endsUrlAuthority c)
  let (hostText, portText) := splitPort false authority
  let host ← host? hostText
  let port ← urlPort? scheme portText
  let (username, password) := readCredentials credentials
  let (segments, query) := readPath (rest.dropWhile fun c => !endsUrlAuthority c)
  return ⟨scheme, username, password, host, port, segments, query⟩

def path (url : Url) : List Char := '/' :: List.intercalate ['/'] url.segments

def target (url : Url) : String :=
  String.ofList (url.path ++
    match url.query with
    | some query => '?' :: query
    | none => [])

def authority (url : Url) : String :=
  url.host.text ++
    match url.port with
    | some port => ":" ++ toString port
    | none => ""

end Url

end WebviewHost.Network
