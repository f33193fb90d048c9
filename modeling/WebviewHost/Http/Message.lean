import WebviewHost.Http.Header
import WebviewHost.Http.Target

/-!
# Requests and responses

The messages that the development server takes and gives.
-/

set_option autoImplicit false

namespace WebviewHost.Http

/-- A request whose body has arrived. -/
structure Request where
  method : String
  target : Target
  headers : Headers
  body : ByteArray

/-- A body: at hand as a whole, passed on as it arrives, or passed on until it broke off. -/
inductive Body where
  | whole (content : ByteArray)
  | passed (content : ByteArray)
  | brokenOff (arrived : ByteArray)
  deriving DecidableEq

structure Response where
  status : Nat
  headers : Headers
  body : Body
  deriving DecidableEq

def contentLength (length : Nat) : Header := .ofText "content-length" (toString length)

namespace Response

def empty (status : Nat) (headers : Headers) : Response := ⟨status, headers, .whole .empty⟩

def plain (status : Nat) (text : String) : Response :=
  ⟨status, [.ofText "content-type" "text/plain; charset=utf-8"], .whole text.toUTF8⟩

/-- Tell the length of a body that is at hand, unless it is told. -/
def withLength (response : Response) : Response :=
  match response.body with
  | .whole content =>
      { response with headers := response.headers.withDefault (contentLength content.size) }
  | _ => response

def withoutContent (response : Response) : Response := { response with body := .whole .empty }

end Response

end WebviewHost.Http
