import WebviewHost.Bridge.Invocation
import WebviewHost.Bridge.Stored
import WebviewHost.Cli.Arguments
import WebviewHost.Cli.Report
import WebviewHost.Cli.Value
import WebviewHost.Network.Endpoint
import WebviewHost.Server.DevServer

/-!
# Running commands

A command runs on a disk and comes to an end there, unless it is the one that serves. Whatever it
writes goes through a bridge of its own, which it opens first.
-/

set_option autoImplicit false

namespace WebviewHost.Cli

open WebviewHost.Bridge (Answer BridgeError Call Picker StoredBridge Terminal invoke)
open WebviewHost.Files (Disk Faults joinPath)
open WebviewHost.Network (Machine bindFault?)
open WebviewHost.Routes (Rule)
open WebviewHost.Server (Config ConfigError DevServer)
open WebviewHost.Settings (StoreError)

/-- What surrounds a command beside the disk: the home directory, what can be read from standard
input, what the machine lets a server listen at, what the reader objects to a text that is not JSON,
and what goes wrong in reading and in writing a first settings file, and in writing later. -/
structure Surroundings where
  home : Option String
  input : List UInt8
  machine : Machine
  objection : String → String
  openingFaults : Faults
  writingFaults : Faults

/-- How a command ends. A server that could be started does not end, and a command that cannot write
to standard output is broken off. -/
inductive Ending where
  | done
  | failed (failure : Failure)
  | refused
  | serving (server : DevServer)
  | unheard

/-- What came of a command: how it ended, what it printed before it opened a store and at its end,
what it asked, and the disk. -/
structure Outcome where
  ending : Ending
  announced : String
  printed : String
  prompted : String
  disk : Disk

namespace Outcome

def success (printed : String) (disk : Disk) : Outcome := ⟨.done, "", printed, "", disk⟩

def failure (failure : Failure) (disk : Disk) : Outcome := ⟨.failed failure, "", "", "", disk⟩

def exitCode (outcome : Outcome) : Option Nat :=
  match outcome.ending with
  | .done => some 0
  | .failed _ => some 1
  | .refused => some 2
  | .serving _ => none
  | .unheard => some 101

/-- All that a command printed. -/
def output (outcome : Outcome) : String := outcome.announced ++ outcome.printed

def errors (outcome : Outcome) : String :=
  match outcome.ending with
  | .failed failure => outcome.prompted ++ failure.text
  | _ => outcome.prompted

def asking (outcome : Outcome) (prompted : String) : Outcome := { outcome with prompted }

def after (outcome : Outcome) (announced : String) : Outcome := { outcome with announced }

/-- What comes of a command instead if standard output cannot be written: the first text to be printed
ends it. What was written to the disk before that stays written. -/
def unheard (outcome : Outcome) (before : Disk) : Outcome :=
  if !outcome.announced.isEmpty then ⟨.unheard, "", "", "", before⟩
  else if !outcome.printed.isEmpty then { outcome with ending := .unheard, printed := "" }
  else outcome

end Outcome

/-! ## Failures -/

def storeFailure (error : StoreError) : Failure := ⟨error.message, [error.cause.message]⟩

def bridgeFailure (error : BridgeError) : Failure := .plain error.message

def configFailure (error : ConfigError) : Failure := ⟨error.message, error.causes⟩

def badConfiguration : String := "Invalid dev server configuration"

/-! ## Bridges -/

def withBridge (surroundings : Surroundings) (directory : String) (disk : Disk)
    (run : StoredBridge → Disk → Outcome) : Outcome :=
  match StoredBridge.openIn surroundings.openingFaults directory disk with
  | (.ok bridge, disk) => run bridge disk
  | (.error error, disk) =>
      .failure ((storeFailure error).within ("Failed to open settings in " ++ directory)) disk

def makeCall (surroundings : Surroundings) (directory : String) (disk : Disk) (call : Call)
    (conclude : Bridge.Reply → Disk → Outcome) : Outcome :=
  withBridge surroundings directory disk fun bridge disk =>
    match StoredBridge.perform surroundings.writingFaults call (bridge, disk) with
    | (.ok reply, _, disk) => conclude reply disk
    | (.error error, _, disk) => .failure (bridgeFailure error) disk

def printReply (reply : Bridge.Reply) (disk : Disk) : Outcome :=
  .success (renderValue reply.toJson ++ "\n") disk

def reportWrite (printed failed : String) (reply : Bridge.Reply) (disk : Disk) : Outcome :=
  match reply with
  | .written true => .success printed disk
  | _ => .failure (.plain failed) disk

def pickFolder (surroundings : Surroundings) (directory : String) (disk : Disk) : Outcome :=
  withBridge surroundings directory disk fun bridge disk =>
    let bridge := bridge.attach (.onTerminal ⟨surroundings.input, "", none⟩)
    let (answer, bridge, disk) :=
      StoredBridge.perform surroundings.writingFaults .selectFolder (bridge, disk)
    let prompted :=
      match bridge.picker with
      | some (.onTerminal terminal) => terminal.prompted
      | _ => ""
    let outcome :=
      match answer with
      | .ok reply => printReply reply disk
      | .error error => .failure (bridgeFailure error) disk
    outcome.asking prompted

/-- Invoke an operation with arguments that have to be JSON, and print the result. Nothing is opened
before all arguments are read. -/
def callOperation (surroundings : Surroundings) (directory operation : String)
    (arguments : List String) (disk : Disk) : Outcome :=
  match parseArguments arguments with
  | .error (position, text) =>
      let summary := "argument " ++ toString position ++ " is not valid JSON: "
      .failure (.plain (summary ++ surroundings.objection text)) disk
  | .ok values =>
      withBridge surroundings directory disk fun bridge disk =>
        let perform := StoredBridge.perform surroundings.writingFaults
        match invoke perform operation values (bridge, disk) with
        | (.ok value, _, disk) => .success (renderValue value ++ "\n") disk
        | (.error error, _, disk) => .failure (bridgeFailure error) disk

/-! ## Development server -/

/-- The configuration file that is used if it is there and no other is named. -/
def defaultConfigFile : String := "devproxy.toml"

/-- Load the configuration from the file that is named, else from the default file if it is there,
else take the standard one. -/
def loadFile (faults : Faults) (configFile : Option String) (disk : Disk) :
    Except ConfigError Config :=
  match configFile with
  | some path => Config.load faults.unread disk path
  | none =>
      if disk.pathExists defaultConfigFile then
        Config.load faults.unread disk defaultConfigFile
      else .ok .standard

def Overrides.apply (overrides : Overrides) (config : Config) : Config :=
  { config with
    bindAddress := overrides.bindAddress.getD config.bindAddress
    staticDirectory := overrides.staticDirectory.getD config.staticDirectory
    mode := if overrides.production then .production else config.mode }

def loadConfig (faults : Faults) (overrides : Overrides) (disk : Disk) :
    Except ConfigError Config :=
  (loadFile faults overrides.configFile disk).map overrides.apply

def runDev (surroundings : Surroundings) (overrides : Overrides) (disk : Disk) : Outcome :=
  match loadConfig surroundings.openingFaults overrides disk with
  | .error error => .failure (configFailure error) disk
  | .ok config =>
      match DevServer.ofConfig config with
      | .error error =>
          let failure := (configFailure error).within ("configuration error: " ++ error.message)
          .failure (failure.within badConfiguration) disk
      | .ok server =>
          match bindFault? surroundings.machine config.bindAddress with
          | none => ⟨.serving server, "", "", "", disk⟩
          | some fault =>
              let summary := "failed to bind " ++ config.bindAddress ++ ": " ++ fault.message
              let failure : Failure := ⟨summary, [fault.message]⟩
              .failure (failure.within "Dev server failed") disk

/-! ## Status -/

def padded (width : Nat) (text : String) : String :=
  text ++ String.ofList (List.replicate (width - text.length) ' ')

def routeLine (rule : Rule) : String :=
  "  " ++ padded 10 rule.pathPrefix ++ " -> " ++ rule.target ++ "\n"

def sessionLines (bridge : StoredBridge) : String :=
  match bridge.sessionRecord with
  | some record =>
      "Session:\n  Host: " ++ (if record.host.isEmpty then "(unknown)" else record.host) ++ "\n\n"
  | none => "Session: NONE\n\n"

def statusTitle : String := "=== publisher-cli status ===\n\n"

def statusLines (directory : String) (bridge : StoredBridge) (config : Config)
    (rules : List Rule) : String :=
  "Data:\n  Dir:      " ++ directory ++ "\n  Settings: " ++ bridge.store.path ++ "\n\n" ++
    sessionLines bridge ++
    "Dev routes (" ++ config.mode.name ++ "):\n" ++ String.join (rules.map routeLine)

/-- Report the data directory, the session and the routes. The configuration has to be usable
before anything is printed, and the title is printed before the store is opened. -/
def runStatus (surroundings : Surroundings) (directory : String) (configFile : Option String)
    (disk : Disk) : Outcome :=
  match loadConfig surroundings.openingFaults (.ofFile configFile) disk with
  | .error error => .failure (configFailure error) disk
  | .ok config =>
      match config.routeTable with
      | .error error => .failure ((configFailure error).within badConfiguration) disk
      | .ok table =>
          let outcome : Outcome :=
            match StoredBridge.openIn surroundings.openingFaults directory disk with
            | (.error error, disk) => .failure (storeFailure error) disk
            | (.ok bridge, disk) => .success (statusLines directory bridge config table.rules) disk
          outcome.after statusTitle

/-! ## Commands -/

def dataDirectoryIn (home : String) : String := joinPath home ".kitsu_publisher_data"

def runCommand (surroundings : Surroundings) (directory : String) (command : Command)
    (disk : Disk) : Outcome :=
  let call := makeCall surroundings directory disk
  match command with
  | .dev overrides => runDev surroundings overrides disk
  | .showSession => call .getSession printReply
  | .saveSession host tokens =>
      call (.saveSession (parseValue tokens) host)
        (reportWrite ("Session saved for " ++ host ++ "\n") "Failed to save session")
  | .clearSession =>
      call .clearSession (reportWrite "Session cleared\n" "Failed to clear session")
  | .getSetting key => call (.getSetting key) printReply
  | .setSetting key value =>
      call (.saveSetting key (parseValue value))
        (reportWrite "" ("Failed to save setting " ++ key))
  | .pickFolder => pickFolder surroundings directory disk
  | .call operation arguments => callOperation surroundings directory operation arguments disk
  | .status configFile => runStatus surroundings directory configFile disk

def CommandLine.run (line : CommandLine) (surroundings : Surroundings) (disk : Disk) : Outcome :=
  match line.dataDirectory, surroundings.home with
  | some directory, _ => runCommand surroundings directory line.command disk
  | none, some home => runCommand surroundings (dataDirectoryIn home) line.command disk
  | none, none => .failure (.plain "Could not determine home directory") disk

def run (arguments : List String) (surroundings : Surroundings) (disk : Disk) : Outcome :=
  match CommandLine.read? arguments with
  | some line => line.run surroundings disk
  | none => ⟨.refused, "", "", "", disk⟩

end WebviewHost.Cli
