import WebviewHost.Network.Ip

/-!
# Endpoints to listen at

An endpoint is an IP address and a port, an IPv6 address standing in brackets, or a host name and
a port. Whether a machine can listen there is for the machine to say.
-/

set_option autoImplicit false

namespace WebviewHost.Network

open WebviewHost.Files (splitAt)

/-- Where to listen: at an IP address, or at whatever address a host name stands for. -/
inductive Endpoint where
  | ip (address : IpAddress) (port : Nat)
  | named (host : String) (port : Nat)
  deriving DecidableEq, Repr

inductive BindFault where
  | invalidAddress
  | invalidPort
  | unknownHost
  | notAvailable
  deriving DecidableEq, Repr

def BindFault.message : BindFault → String
  | .invalidAddress => "invalid socket address"
  | .invalidPort => "invalid port value"
  | .unknownHost => "failed to lookup address information: Name or service not known"
  | .notAvailable => "Cannot assign requested address (os error 99)"

def splitAtLast? (separator : Char) (text : List Char) : Option (List Char × List Char) :=
  let parts := splitAt separator text
  match parts.getLast?, parts.dropLast with
  | some last, first :: others => some (List.intercalate [separator] (first :: others), last)
  | _, _ => none

def ipEndpoint? (host port : List Char) : Option Endpoint :=
  match port? port with
  | none => none
  | some port =>
      match ipv4? host, host with
      | some parts, _ => some (.ip (.v4 parts) port)
      | none, '[' :: rest =>
          if rest.getLast? = some ']' then
            (ipv6? rest.dropLast).map fun parts => .ip (.v6 parts) port
          else none
      | none, _ => none

/-- The port beside a host name. A plus sign may precede it. -/
def namedPort? : List Char → Option Nat
  | '+' :: digits => port? digits
  | digits => port? digits

def endpointOf (text : String) : Except BindFault Endpoint :=
  match splitAtLast? ':' text.toList with
  | none => .error .invalidAddress
  | some (host, port) =>
      match ipEndpoint? host port with
      | some endpoint => .ok endpoint
      | none =>
          match namedPort? port with
          | some port => .ok (.named (String.ofList host) port)
          | none => .error .invalidPort

/-- What a machine lets a server listen at: why not, if it does not. -/
abbrev Machine := Endpoint → Option BindFault

/-- A machine without any interface but the one to itself, on which every port is free. -/
def Machine.isolated : Machine
  | .ip (.v4 parts) _ =>
      if parts.head? = some 127 || parts.all (· = 0) then none else some .notAvailable
  | .ip (.v6 parts) _ =>
      if parts.dropLast.all (· = 0) && parts.getLast?.any (· ≤ 1) then none
      else some .notAvailable
  | .named host _ => if host = "localhost" then none else some .unknownHost

def bindFault? (machine : Machine) (address : String) : Option BindFault :=
  match endpointOf address with
  | .error fault => some fault
  | .ok endpoint => machine endpoint

end WebviewHost.Network
