import WebviewHost.Files.Disk
import WebviewHost.Routes.Table
import WebviewHost.Toml.Document

/-!
# Development server configuration

A configuration is a TOML document with two sections. Every section and every field may be left
out, and what a section does not know is ignored. A section may also be an array of its fields in
their order.
-/

set_option autoImplicit false

namespace WebviewHost.Server

open WebviewHost.Files (Cause Disk)
open WebviewHost.Routes (RouteError Table)
open WebviewHost.Toml (Entries Item)

/-- Whether requests are forwarded: during development they are, in production the backend serves
the frontend itself. -/
inductive Mode where
  | development
  | production
  deriving DecidableEq, Repr

def Mode.name : Mode → String
  | .development => "development"
  | .production => "production"

/-- What the server is told: where to listen, which directory to serve, whether and where to
forward, and how long a forwarded request body may be. -/
structure Config where
  bindAddress : String
  staticDirectory : String
  mode : Mode
  origin : String
  prefixes : List String
  bodyLimit : Nat
  deriving DecidableEq, Repr

def Config.standard : Config where
  bindAddress := "127.0.0.1:5173"
  staticDirectory := "frontend/build"
  mode := .development
  origin := Routes.developmentOrigin
  prefixes := Routes.developmentPrefixes
  bodyLimit := 16 * 1024 * 1024

/-- Why there is no configuration, or none with usable routes. -/
inductive ConfigError where
  | unreadable (path : String) (cause : Cause)
  | notText (path : String)
  | malformed (path : String)
  | invalidRoutes (error : RouteError)
  deriving DecidableEq, Repr

namespace ConfigError

/-- What is below a configuration error, in words, from the outside in. Of a malformed document
only the kind of the fault is told. -/
def causes : ConfigError → List String
  | .unreadable _ cause => [cause.message]
  | .notText _ => ["stream did not contain valid UTF-8"]
  | .malformed _ => ["TOML parse error"]
  | .invalidRoutes error => [error.message]

def message (error : ConfigError) : String :=
  let below := String.join error.causes
  match error with
  | .unreadable path _ | .notText path => "failed to read config file " ++ path ++ ": " ++ below
  | .malformed path => "failed to parse config file " ++ path ++ ": " ++ below
  | .invalidRoutes _ => "invalid backend routes: " ++ below

end ConfigError

/-! ## Fields -/

def text? : Item → Option String
  | .string value => some value
  | _ => none

def texts? : Item → Option (List String)
  | .array items => items.mapM text?
  | _ => none

/-- An integer that is not negative. -/
def count? : Item → Option Nat
  | .integer value => if value < 0 then none else some value.toNat
  | _ => none

def modeNamed? (name : String) : Option Mode :=
  if name = Mode.development.name then some .development
  else if name = Mode.production.name then some .production
  else none

/-- An item that says no more than that it is there. -/
def isHollow : Item → Bool
  | .array items => items.isEmpty
  | .table _ entries => entries.isEmpty
  | _ => false

/-- A mode: its name, or a table in which that name alone stands for something hollow. -/
def mode? : Item → Option Mode
  | .string name => modeNamed? name
  | .table _ [(name, item)] => if isHollow item then modeNamed? name else none
  | _ => none

/-- A field of a section: its name, and how its item changes a configuration. -/
structure Field where
  name : String
  read : Config → Item → Option Config

def serverFields : List Field :=
  [⟨"bind_address", fun config item =>
      (text? item).map fun bindAddress => { config with bindAddress }⟩,
    ⟨"static_dir", fun config item =>
      (text? item).map fun staticDirectory => { config with staticDirectory }⟩,
    ⟨"mode", fun config item => (mode? item).map fun mode => { config with mode }⟩]

def backendFields : List Field :=
  [⟨"origin", fun config item => (text? item).map fun origin => { config with origin }⟩,
    ⟨"prefixes", fun config item => (texts? item).map fun prefixes => { config with prefixes }⟩,
    ⟨"max_body_bytes", fun config item =>
      (count? item).map fun bodyLimit => { config with bodyLimit }⟩]

/-! ## Sections -/

def readNamed (fields : List Field) (entries : Entries) (config : Config) : Option Config :=
  fields.foldlM (fun config field =>
    match entries.get? field.name with
    | some item => field.read config item
    | none => some config) config

/-- Read fields in their order, as far as there are items. Items beyond the last field do not
matter. -/
def readInOrder : List Field → List Item → Config → Option Config
  | field :: fields, item :: items, config =>
      (field.read config item).bind (readInOrder fields items)
  | _, _, config => some config

/-- Read a section. A date tells a section nothing. -/
def readSection (fields : List Field) (config : Config) : Item → Option Config
  | .table _ entries => readNamed fields entries config
  | .array items => readInOrder fields items config
  | .tables elements => readInOrder fields (elements.map (.table .header ·)) config
  | .date => some config
  | _ => none

def readSectionOf (name : String) (fields : List Field) (document : Entries) (config : Config) :
    Option Config :=
  match document.get? name with
  | some item => readSection fields config item
  | none => some config

namespace Config

def ofDocument? (document : Entries) : Option Config := do
  let config ← readSectionOf "server" serverFields document .standard
  readSectionOf "backend" backendFields document config

def ofText? (text : String) : Option Config := (Toml.read? text).bind ofDocument?

/-- Load a configuration from a file, which may be refused to be read. -/
def load (refused : String → Option Cause) (disk : Disk) (path : String) :
    Except ConfigError Config :=
  match disk.tryReadFile refused path with
  | .error cause => .error (.unreadable path cause)
  | .ok content =>
      match String.fromUTF8? content with
      | none => .error (.notText path)
      | some text =>
          match ofText? text with
          | none => .error (.malformed path)
          | some config => .ok config

/-- The routing table of a configuration, whatever its mode. -/
def routeTable (config : Config) : Except ConfigError Table :=
  match Table.singleOrigin config.prefixes config.origin with
  | .ok table => .ok table
  | .error error => .error (.invalidRoutes error)

end Config

end WebviewHost.Server
