/-!
# Request targets

A target in origin form is a path and perhaps a query, in absolute form it also names a scheme and
an authority, in authority form it names nothing else. Only path and query are kept; a fragment is
dropped.
-/

set_option autoImplicit false

namespace WebviewHost.Http

/-- The path of a target, and its query if there is one. The path is raw: nothing is decoded. It
is empty in authority form only. -/
structure Target where
  path : String
  query : Option String
  deriving DecidableEq, Repr

def Target.text (target : Target) : String :=
  let path := if target.path.isEmpty then "/" else target.path
  match target.query with
  | some query => path ++ "?" ++ query
  | none => path

def isPathChar (c : Char) : Bool :=
  let code := c.toNat
  code = 0x21 || code = 0x22 || (0x24 ≤ code && code ≤ 0x3b) || code = 0x3d ||
    (0x40 ≤ code && code ≤ 0x5f) || 0x61 ≤ code

def isQueryChar (c : Char) : Bool :=
  let code := c.toNat
  code = 0x21 || (0x24 ≤ code && code ≤ 0x3b) || code = 0x3d || 0x3f ≤ code

def targetLimit : Nat := 65534

/-- A target from its path and query. A missing path is the root. -/
def originTarget? (text : List Char) : Option Target :=
  let text := text.takeWhile (· ≠ '#')
  let path := text.takeWhile (· ≠ '?')
  let path? :=
    if !path.all isPathChar then none
    else if path.isEmpty then some "/"
    else some (String.ofList path)
  match path?, text.dropWhile (· ≠ '?') with
  | some path, '?' :: query =>
      if query.all isQueryChar then some ⟨path, some (String.ofList query)⟩ else none
  | some path, _ => some ⟨path, none⟩
  | none, _ => none

/-- The text after a scheme and its two slashes, if there is a scheme. -/
def afterScheme? (text : List Char) : Option (List Char) :=
  match text.dropWhile fun c => c.isAlphanum || c = '+' || c = '-' || c = '.' with
  | ':' :: '/' :: '/' :: rest => if text.head? = some ':' then none else some rest
  | _ => none

def endsAuthority (c : Char) : Bool := c = '/' || c = '?' || c = '#'

def Target.parse? (text : String) : Option Target :=
  if text.isEmpty || targetLimit < text.utf8ByteSize then none
  else
    match text.toList with
    | '/' :: rest => originTarget? ('/' :: rest)
    | ['*'] => some ⟨"*", none⟩
    | text =>
        match afterScheme? text with
        | some rest =>
            if rest.head?.any endsAuthority || rest.isEmpty then none
            else originTarget? (rest.dropWhile fun c => !endsAuthority c)
        | none => if text.any endsAuthority then none else some ⟨"", none⟩

end WebviewHost.Http
