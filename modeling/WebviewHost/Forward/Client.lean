import WebviewHost.Http.Message
import WebviewHost.Network.Url
import WebviewHost.Text.Base64

/-!
# Client

Sending a request to the server a URL names. The client adds what every request needs, follows no
redirects, and tells a body that broke off from a complete one.
-/

set_option autoImplicit false

namespace WebviewHost.Forward

open WebviewHost.Http (Body Header Headers)
open WebviewHost.Network (Host Scheme Url)
open WebviewHost.Text (base64 encodeUtf8 percentBytes)

/-- A request on its way to a server. The length of its body is not among the headers. -/
structure Outgoing where
  scheme : Scheme
  host : Host
  port : Option Nat
  method : String
  target : String
  headers : Headers
  body : ByteArray
  deriving DecidableEq

/-- How the end of a reply's body is known: by its length, by a last chunk, which may be missing,
or because there is no body. -/
inductive Framing where
  | sized (length : Nat)
  | chunked (ended : Bool)
  | bodyless
  deriving DecidableEq, Repr

/-- A reply: its status, its headers, and as much of its body as arrived. -/
structure Reply where
  status : Nat
  headers : Headers
  framing : Framing
  arrived : ByteArray
  deriving DecidableEq

/-- What comes of turning to a server: it cannot be reached and is sent nothing, it is sent a request
but gives no reply, or it replies. -/
inductive Contact where
  | unreached
  | silent
  | replied (reply : Reply)
  deriving DecidableEq

/-- What comes of a request, by the servers that there are. -/
abbrev Network := Outgoing → Contact

def Network.down : Network := fun _ => .unreached

def unescape? (escaped : List Char) : Option String :=
  String.fromUTF8? ⟨(percentBytes escaped).toArray⟩

def authorization? (url : Url) : Option Header :=
  match unescape? url.username with
  | none => none
  | some username =>
      let password := url.password.bind unescape?
      if username.isEmpty && password.isNone then none
      else
        let credentials := encodeUtf8 (username ++ ":" ++ password.getD "")
        some (.ofText "authorization" ("Basic " ++ String.ofList (base64 credentials)))

/-- The headers with what the client adds where the request has nothing of the kind. -/
def completeHeaders (url : Url) (headers : Headers) : Headers :=
  let headers := headers.withDefault (.ofText "accept" "*/*")
  let headers := (authorization? url).elim headers headers.withDefault
  headers.withDefault (.ofText "host" url.authority)

def outgoing (url : Url) (method : String) (headers : Headers) (body : ByteArray) : Outgoing where
  scheme := url.scheme
  host := url.host
  port := url.port
  method := method
  target := url.target
  headers := completeHeaders url headers
  body := body

/-- The body of a reply as it can be passed on. -/
def Reply.body (reply : Reply) : Body :=
  match reply.framing with
  | .sized length =>
      if reply.arrived.size < length then .brokenOff reply.arrived
      else .passed (reply.arrived.extract 0 length)
  | .chunked ended => if ended then .passed reply.arrived else .brokenOff reply.arrived
  | .bodyless => .passed .empty

end WebviewHost.Forward
