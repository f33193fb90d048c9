import WebviewHost.Text.Quoted

/-!
# Route rules

A rule sends the requests under one path prefix to one origin. Both parts are checked when the
rule is made: the prefix is an absolute path without a trailing slash, the origin is a scheme and
an authority and nothing else.
-/

set_option autoImplicit false

namespace WebviewHost.Routes

open WebviewHost.Text (quoted)

inductive RouteError where
  | invalidPrefix (given : String)
  | invalidOrigin (given : String)
  | overlapping (first second : String)
  deriving DecidableEq, Repr

def RouteError.message : RouteError → String
  | .invalidPrefix given => "invalid route prefix: " ++ quoted given
  | .invalidOrigin given => "invalid target origin: " ++ quoted given
  | .overlapping first second =>
      "overlapping route prefixes: " ++ quoted first ++ " and " ++ quoted second

/-- Requests whose path begins with `pathPrefix` go to `target`. -/
structure Rule where
  pathPrefix : String
  target : String
  deriving DecidableEq, Repr

/-- A usable prefix is `/` followed by at least one character, does not end in `/`, and holds
neither `?` nor `#`. -/
def isPathPrefix : List Char → Bool
  | '/' :: rest => !rest.isEmpty && rest.getLast? != some '/' &&
      !rest.contains '?' && !rest.contains '#'
  | _ => false

/-- What is left of a text once a given beginning is taken off; nothing if it begins otherwise. -/
def stripPrefix? : List Char → List Char → Option (List Char)
  | [], text => some text
  | c :: lead, d :: text => if c = d then stripPrefix? lead text else none
  | _ :: _, [] => none

def dropTrailingSlash (text : List Char) : List Char :=
  if text.getLast? = some '/' then text.dropLast else text

/-- The authority of an origin that begins with one of the two schemes. Case matters here. -/
def authority? (origin : List Char) : Option (List Char) :=
  (stripPrefix? "http://".toList origin).or (stripPrefix? "https://".toList origin)

/-- An authority is not empty and holds nothing that would end it. -/
def isAuthority (text : List Char) : Bool :=
  !text.isEmpty && text.all fun c => c != '/' && c != '?' && c != '#' && c != ' '

/-- An origin without its optional trailing slash, if what remains is a scheme and an authority. -/
def targetOfOrigin? (origin : List Char) : Option (List Char) :=
  let target := dropTrailingSlash origin
  if (authority? target).any isAuthority then some target else none

namespace Rule

/-- Make a rule. The prefix is judged before the origin. -/
def make (pathPrefix origin : String) : Except RouteError Rule :=
  if isPathPrefix pathPrefix.toList then
    match targetOfOrigin? origin.toList with
    | some target => .ok ⟨pathPrefix, String.ofList target⟩
    | none => .error (.invalidOrigin origin)
  else .error (.invalidPrefix pathPrefix)

/-- A rule matches every path that begins with its prefix, also inside a segment. -/
def matchesPath (rule : Rule) (path : String) : Bool :=
  rule.pathPrefix.toList.isPrefixOf path.toList

/-- Where a request for `pathAndQuery` goes: the target, directly followed by it. -/
def forwardUrl (rule : Rule) (pathAndQuery : String) : String :=
  rule.target ++ pathAndQuery

/-- Two rules clash if the prefix of one begins with the prefix of the other. -/
def clashesWith (left right : Rule) : Bool :=
  left.matchesPath right.pathPrefix || right.matchesPath left.pathPrefix

end Rule

end WebviewHost.Routes
