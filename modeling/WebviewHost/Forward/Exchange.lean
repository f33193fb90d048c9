import WebviewHost.Forward.Client
import WebviewHost.Routes.Rule

/-!
# Forwarding

A request goes to the target of its rule with its own method, path, query, body and end-to-end
headers, and the reply comes back the same way. A body that is too long is refused before anything
is sent.
-/

set_option autoImplicit false

namespace WebviewHost.Forward

open WebviewHost.Http (Headers Request Response endToEnd)
open WebviewHost.Network (Url)
open WebviewHost.Routes (Rule)

/-- What came of a request: the response, and what was sent to other servers for it. -/
structure Exchange where
  response : Response
  sent : List Outgoing

def Exchange.ofResponse (response : Response) : Exchange := ⟨response, []⟩

/-- The headers of a request that are passed on. The client tells the length of the body itself. -/
def passedHeaders (headers : Headers) : Headers := (endToEnd headers).without "content-length"

/-- The request that a rule makes of a request, if the rule's target leads to a URL. -/
def forwardedRequest? (rule : Rule) (request : Request) : Option Outgoing :=
  (Url.parse? (rule.forwardUrl request.target.text)).map fun url =>
    outgoing url request.method (passedHeaders request.headers) request.body

def passReply (reply : Reply) : Response := ⟨reply.status, endToEnd reply.headers, reply.body⟩

def unreachable (rule : Rule) : Response := .plain 502 ("backend unreachable: " ++ rule.target)

def tooLong (limit : Nat) : Response :=
  .plain 413 ("request body exceeds " ++ toString limit ++ " bytes")

/-- Forward a request. A server that gives no reply counts as unreachable, whether or not the request
was sent to it. -/
def forward (network : Network) (rule : Rule) (limit : Nat) (request : Request) : Exchange :=
  if limit < request.body.size then .ofResponse (tooLong limit)
  else
    match forwardedRequest? rule request with
    | none => .ofResponse (unreachable rule)
    | some outgoing =>
        match network outgoing with
        | .unreached => .ofResponse (unreachable rule)
        | .silent => ⟨unreachable rule, [outgoing]⟩
        | .replied reply => ⟨passReply reply, [outgoing]⟩

end WebviewHost.Forward
