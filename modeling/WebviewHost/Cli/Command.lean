/-!
# Commands

What the command line can be asked to do.
-/

set_option autoImplicit false

namespace WebviewHost.Cli

/-- How the development server is to differ from its configuration file, and which file that is. -/
structure Overrides where
  configFile : Option String
  bindAddress : Option String
  staticDirectory : Option String
  production : Bool
  deriving DecidableEq, Repr

def Overrides.ofFile (configFile : Option String) : Overrides := ⟨configFile, none, none, false⟩

inductive Command where
  | dev (overrides : Overrides)
  | showSession
  | saveSession (host tokens : String)
  | clearSession
  | getSetting (key : String)
  | setSetting (key value : String)
  | pickFolder
  | call (operation : String) (arguments : List String)
  | status (configFile : Option String)
  deriving DecidableEq, Repr

/-- A command line: a command, and the data directory if one is named. -/
structure CommandLine where
  dataDirectory : Option String
  command : Command
  deriving DecidableEq, Repr

end WebviewHost.Cli
