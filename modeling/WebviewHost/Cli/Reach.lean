import WebviewHost.Cli.Run

/-!
# What a command looks at

A command looks at few places: its data directory with the settings file and the temporary file
beside it, its configuration file, the folder that was entered, and the directories on the way to
them. A disk that knows these places is enough for a run.
-/

set_option autoImplicit false

namespace WebviewHost.Cli

open WebviewHost.Files (Disk Entry Place isAbsolute joinPath pathNames temporaryPath)
open WebviewHost.Settings (settingsFile)

def nextPlace (here : Place) (name : String) : Place :=
  if name = "." then here
  else if name = ".." then here.dropLast
  else here ++ [name]

def placesAlong (here : Place) : List String → List Place
  | [] => []
  | name :: names => nextPlace here name :: placesAlong (nextPlace here name) names

/-- The places on the way to a path, from the root directory. -/
def placesTowards (workingDirectory path : String) : List Place :=
  placesAlong [] <|
    if isAbsolute path then pathNames path
    else pathNames workingDirectory ++ pathNames path

def dataPaths (directory : String) : List String :=
  let settings := joinPath directory settingsFile
  [directory, settings, temporaryPath settings]

/-- The configuration file of a command, or the default one. -/
def configPaths : Command → List String
  | .dev overrides => [overrides.configFile.getD defaultConfigFile]
  | .status configFile => [configFile.getD defaultConfigFile]
  | _ => []

def enteredPaths (input : List UInt8) : List String :=
  match Text.decodeUtf8 (Bridge.takeLine input).1 with
  | .ok text => [String.ofList (Text.trimBlanks text.toList)]
  | .error _ => []

def CommandLine.paths (line : CommandLine) (surroundings : Surroundings) : List String :=
  let directory := line.dataDirectory <|> surroundings.home.map dataDirectoryIn
  directory.toList.flatMap dataPaths ++ configPaths line.command ++ enteredPaths surroundings.input

/-- The entries that a run has changed or made, directories above what is in them. -/
def changes (before after : Disk) : List (Place × Entry) :=
  (after.entries.filter fun (place, entry) => before.entry? place ≠ some entry).mergeSort
    fun left right => left.1.length ≤ right.1.length

end WebviewHost.Cli
