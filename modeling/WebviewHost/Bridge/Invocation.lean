import WebviewHost.Bridge.Call

/-!
# Invocations

A web view makes a call by an operation name and a list of JSON arguments. An invocation either
denotes exactly one call or is refused before the bridge sees anything.
-/

set_option autoImplicit false

namespace WebviewHost.Bridge

def arity : String → Nat
  | "save_session" | "save_setting" => 2
  | "get_setting" => 1
  | _ => 0

/-- Arguments that are read from left to right. -/
structure Arguments where
  operation : String
  remaining : List Json
  taken : Nat
  given : Nat

namespace Arguments

def all (operation : String) (values : List Json) : Arguments :=
  ⟨operation, values, 0, values.length⟩

def arityError (arguments : Arguments) : BridgeError :=
  .invalidArguments arguments.operation (.arity (arity arguments.operation) arguments.given)

def value (arguments : Arguments) : Except BridgeError (Json × Arguments) :=
  match arguments.remaining with
  | [] => .error arguments.arityError
  | value :: rest => .ok (value, { arguments with remaining := rest, taken := arguments.taken + 1 })

def string (arguments : Arguments) : Except BridgeError (String × Arguments) :=
  match arguments.value with
  | .error error => .error error
  | .ok (.string text, rest) => .ok (text, rest)
  | .ok (other, rest) =>
      .error (.invalidArguments arguments.operation (.notAString rest.taken other.kind))

def finish (arguments : Arguments) : Except BridgeError Unit :=
  if arguments.given = arguments.taken then .ok () else .error arguments.arityError

end Arguments

def decodeCall (operation : String) (values : List Json) : Except BridgeError Call :=
  let arguments := Arguments.all operation values
  match operation with
  | "select_folder" => do
      arguments.finish
      return .selectFolder
  | "save_session" => do
      let (tokens, arguments) ← arguments.value
      let (host, arguments) ← arguments.string
      arguments.finish
      return .saveSession tokens host
  | "get_session" => do
      arguments.finish
      return .getSession
  | "clear_session" => do
      arguments.finish
      return .clearSession
  | "save_setting" => do
      let (key, arguments) ← arguments.string
      let (value, arguments) ← arguments.value
      arguments.finish
      return .saveSetting key value
  | "get_setting" => do
      let (key, arguments) ← arguments.string
      arguments.finish
      return .getSetting key
  | other => .error (.unknownOperation other)

/-- Make an invocation on a bridge. A refused one leaves the bridge as it is. -/
def invoke {σ : Type} (perform : Performer σ) (operation : String) (values : List Json)
    (state : σ) : Except BridgeError Json × σ :=
  match decodeCall operation values with
  | .error error => (.error error, state)
  | .ok call =>
      match perform call state with
      | (.ok reply, state) => (.ok reply.toJson, state)
      | (.error error, state) => (.error error, state)

end WebviewHost.Bridge
