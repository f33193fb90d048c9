import WebviewHost.Json.Basic

/-!
# Bridge calls

What a web view can ask of its host: six calls, what each of them answers, and how a call fails.
A bridge is a state with a function that performs calls on it.
-/

set_option autoImplicit false

namespace WebviewHost.Bridge

inductive Call where
  | selectFolder
  | saveSession (tokens : Json) (host : String)
  | getSession
  | clearSession
  | saveSetting (key : String) (value : Json)
  | getSetting (key : String)
  deriving Repr

def Call.name : Call → String
  | .selectFolder => "select_folder"
  | .saveSession _ _ => "save_session"
  | .getSession => "get_session"
  | .clearSession => "clear_session"
  | .saveSetting _ _ => "save_setting"
  | .getSetting _ => "get_setting"

/-- What a call answers: a folder or none, whether a write took effect, or a value or none. -/
inductive Reply where
  | folder (chosen : Option String)
  | written (done : Bool)
  | value (found : Option Json)
  deriving Repr

/-- A reply as the web view receives it. Nothing reads as `null`. -/
def Reply.toJson : Reply → Json
  | .folder chosen => .ofOption (chosen.map .string)
  | .written done => .bool done
  | .value found => .ofOption found

inductive ArgumentFault where
  | arity (expected given : Nat)
  | notAString (position : Nat) (kind : String)
  deriving DecidableEq, Repr

inductive BridgeError where
  | unavailable
  | alreadyInstalled
  | host (reason : String)
  | unknownOperation (operation : String)
  | invalidArguments (operation : String) (fault : ArgumentFault)
  deriving DecidableEq, Repr

def countText (n : Nat) : String := String.ofList (Number.decimalDigits n)

def ArgumentFault.message : ArgumentFault → String
  | .arity expected given =>
      "expected " ++ countText expected ++ " arguments, got " ++ countText given
  | .notAString position kind =>
      "argument " ++ countText position ++ " must be a string, got " ++ kind

def BridgeError.message : BridgeError → String
  | .unavailable => "bridge unavailable: host not initialized"
  | .alreadyInstalled => "bridge already installed"
  | .host reason => "host error: " ++ reason
  | .unknownOperation operation => "unknown bridge operation: " ++ operation
  | .invalidArguments operation fault =>
      "invalid arguments for " ++ operation ++ ": " ++ fault.message

abbrev Answer := Except BridgeError Reply

/-- How a bridge with state `σ` performs a call. -/
abbrev Performer (σ : Type) := Call → σ → Answer × σ

end WebviewHost.Bridge
