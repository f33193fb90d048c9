import WebviewHost.Forward.Exchange
import WebviewHost.Http.Status
import WebviewHost.Json.Printer
import WebviewHost.Server.Config
import WebviewHost.Server.StaticFiles

/-!
# Development server

The server answers for the frontend while it is developed. Its health page comes first, then, unless
it is in production mode, the routes to the backend, and then the files of the frontend. Requests
are logged, a few paths that are asked for all the time apart.
-/

set_option autoImplicit false

namespace WebviewHost.Server

open WebviewHost.Files (Disk)
open WebviewHost.Forward (Exchange Network forward)
open WebviewHost.Http (Request Response isServerError statusText)
open WebviewHost.Routes (Rule Table)

/-- A configuration whose routes are known to be usable. -/
structure DevServer where
  config : Config
  routes : Table

def version : String := "0.1.0"

def healthPath : String := "/__devproxy/health"

def quietPaths : List String := ["/", "/logs/stream"]

namespace DevServer

/-- The server of a configuration, in whatever mode; the routes have to be usable in any case. -/
def ofConfig (config : Config) : Except ConfigError DevServer :=
  match config.routeTable with
  | .ok routes => .ok ⟨config, routes⟩
  | .error error => .error error

/-- The routes that are followed: none in production. -/
def activeRoutes (server : DevServer) : Option Table :=
  match server.config.mode with
  | .development => some server.routes
  | .production => none

/-! ## Health -/

def routeTexts (server : DevServer) : List String :=
  match server.activeRoutes with
  | some table => table.rules.map fun rule => rule.pathPrefix ++ " -> " ++ rule.target
  | none => []

def memberText (name : String) (value : Json) : String :=
  (Json.string name).compact ++ ":" ++ value.compact

/-- The text of the health page: a JSON object whose members have a fixed order. -/
def healthText (server : DevServer) : String :=
  let members := [memberText "status" (.string "ok"), memberText "version" (.string version),
    memberText "mode" (.string server.config.mode.name),
    memberText "routes" (.array (server.routeTexts.map .string))]
  "\x7b" ++ ",".intercalate members ++ "\x7d"

/-- The health page. It can be fetched and asked about, nothing else. -/
def health (server : DevServer) (method : String) : Response :=
  let page : Response :=
    ⟨200, [.ofText "content-type" "application/json"], .whole server.healthText.toUTF8⟩
  if method = "GET" then page
  else if method = "HEAD" then page.withLength.withoutContent
  else .empty 405 [.ofText "allow" "GET,HEAD"]

/-! ## Answering -/

def ruleFor? (server : DevServer) (path : String) : Option Rule :=
  server.activeRoutes.bind (·.route? path)

/-- Answer a request that is not about health: forward it if there is a rule for its path, else
serve a file. -/
def dispatch (server : DevServer) (network : Network) (disk : Disk) (request : Request) :
    Exchange :=
  let path := request.target.path
  match server.ruleFor? path with
  | some rule => forward network rule server.config.bodyLimit request
  | none => .ofResponse (serveFile disk server.config.staticDirectory request.method path)

/-- Answer a request. Lengths of bodies are told where they are known. -/
def answer (server : DevServer) (network : Network) (disk : Disk) (request : Request) : Exchange :=
  let exchange :=
    if request.target.path = healthPath then .ofResponse (server.health request.method)
    else server.dispatch network disk request
  { exchange with response := exchange.response.withLength }

end DevServer

/-! ## Request log -/

inductive Level where
  | error
  | info
  | debug
  deriving DecidableEq, Repr

def Level.name : Level → String
  | .error => "ERROR"
  | .info => "INFO"
  | .debug => "DEBUG"

structure LogLine where
  level : Level
  text : String
  deriving DecidableEq, Repr

def logOf (request : Request) (status : Nat) : List LogLine :=
  let path := request.target.path
  if quietPaths.contains path then []
  else
    let asked := request.method ++ " " ++ path
    [⟨.info, asked⟩,
      ⟨if isServerError status then .error else .debug, asked ++ " -> " ++ statusText status⟩]

def DevServer.handle (server : DevServer) (network : Network) (disk : Disk) (request : Request) :
    Exchange × List LogLine :=
  let exchange := server.answer network disk request
  (exchange, logOf request exchange.response.status)

end WebviewHost.Server
