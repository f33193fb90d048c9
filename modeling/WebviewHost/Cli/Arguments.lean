import WebviewHost.Cli.Command

/-!
# Command-line arguments

Arguments are read level by level: the program's own, those of a command, those of a subcommand.
An option takes its value from the same argument, after an equals sign, or from the next one. No
level takes an option twice. After a double dash every argument stands for itself.
-/

set_option autoImplicit false

namespace WebviewHost.Cli

/-- What an option takes: nothing, a text, or the path of something, which is not empty. -/
inductive Takes where
  | nothing
  | text
  | path
  deriving DecidableEq, Repr

/-- An option: its long name, a short name if it has one, and what it takes. -/
structure Flag where
  name : String
  short : Option Char
  takes : Takes
  deriving DecidableEq, Repr

def dataFlag : Flag := ⟨"data-dir", none, .path⟩

def configFlag : Flag := ⟨"config", some 'c', .path⟩

/-- What a level was given: the values of its options, its arguments, and where it hands over to a
subcommand, the name of that and the arguments left for it. -/
structure Given where
  values : List (String × String)
  arguments : List String
  next : Option (String × List String)
  deriving DecidableEq, Repr

namespace Given

def nothing : Given := ⟨[], [], none⟩

def withArgument (given : Given) (argument : String) : Given :=
  { given with arguments := argument :: given.arguments }

def value? (given : Given) (flag : Flag) : Option String := given.values.lookup flag.name

/-- One more option, ahead of the others and different from them, with a value that it takes. -/
def withValue? (given : Given) (flag : Flag) (value : String) : Option Given :=
  if (given.value? flag).isSome || (flag.takes = .path && value.isEmpty) then none
  else some { given with values := (flag.name, value) :: given.values }

end Given

def looksLikeFlag (argument : String) : Bool :=
  match argument.toList with
  | '-' :: _ :: _ => true
  | _ => false

/-- A text up to its first equals sign, and what follows that. -/
def splitAtEquals (text : List Char) : List Char × Option (List Char) :=
  match text.dropWhile (· ≠ '=') with
  | _ :: value => (text.takeWhile (· ≠ '='), some value)
  | [] => (text, none)

/-- The option that an argument names, with the value in the same argument if there is one. -/
def flagOf? (flags : List Flag) (argument : String) : Option (Flag × Option String) :=
  match argument.toList with
  | '-' :: '-' :: rest =>
      let (name, value) := splitAtEquals rest
      (flags.find? (·.name.toList = name)).map (·, value.map String.ofList)
  | '-' :: short :: rest =>
      let value :=
        match rest with
        | [] => none
        | '=' :: value => some value
        | value => some value
      (flags.find? (·.short = some short)).map (·, value.map String.ofList)
  | _ => none

/-- Read the arguments of a level. The second argument tells a subcommand by its name. -/
def readLevel (flags : List Flag) (isSubcommand : String → Bool) : List String → Option Given
  | [] => some .nothing
  | argument :: rest =>
      if isSubcommand argument then some ⟨[], [], some (argument, rest)⟩
      else if argument = "--" then some ⟨[], rest, none⟩
      else if looksLikeFlag argument then
        match flagOf? flags argument with
        | none => none
        | some (flag, attached) =>
            match flag.takes, attached, rest with
            | .nothing, none, rest =>
                (readLevel flags isSubcommand rest).bind (·.withValue? flag "")
            | .nothing, some _, _ => none
            | _, some value, rest =>
                (readLevel flags isSubcommand rest).bind (·.withValue? flag value)
            | _, none, value :: rest =>
                if looksLikeFlag value then none
                else (readLevel flags isSubcommand rest).bind (·.withValue? flag value)
            | _, none, [] => none
      else (readLevel flags isSubcommand rest).map (·.withArgument argument)

/-! ## Commands -/

def readLast (flags : List Flag) (arguments : List String) : Option Given :=
  readLevel (dataFlag :: flags) (fun _ => false) arguments

/-- Read the arguments of a level that needs one of the named subcommands and takes no arguments
of its own. -/
def readInner (subcommands : List String) (arguments : List String) :
    Option (Given × String × List String) :=
  match readLevel [dataFlag] subcommands.contains arguments with
  | some given =>
      match given.arguments, given.next with
      | [], some (name, rest) => some (given, name, rest)
      | _, _ => none
  | none => none

abbrev Reading := Option (Command × Given)

def bindFlag : Flag := ⟨"bind", none, .text⟩

def staticFlag : Flag := ⟨"static-dir", none, .path⟩

def productionFlag : Flag := ⟨"production", none, .nothing⟩

def hostFlag : Flag := ⟨"host", none, .text⟩

def tokensFlag : Flag := ⟨"tokens", none, .text⟩

def readPlain (command : Command) (arguments : List String) : Reading :=
  match readLast [] arguments with
  | some given => if given.arguments.isEmpty then some (command, given) else none
  | none => none

def readDev (arguments : List String) : Reading :=
  match readLast [configFlag, bindFlag, staticFlag, productionFlag] arguments with
  | some given =>
      let overrides : Overrides := ⟨given.value? configFlag, given.value? bindFlag,
        given.value? staticFlag, (given.value? productionFlag).isSome⟩
      if given.arguments.isEmpty then some (.dev overrides, given) else none
  | none => none

def readStatus (arguments : List String) : Reading :=
  match readLast [configFlag] arguments with
  | some given =>
      if given.arguments.isEmpty then some (.status (given.value? configFlag), given) else none
  | none => none

/-- The arguments of a bridge call: an operation, then any number. -/
def readCall (arguments : List String) : Reading :=
  match readLast [] arguments with
  | some given =>
      match given.arguments with
      | operation :: rest => some (.call operation rest, given)
      | [] => none
  | none => none

/-- The arguments for saving a session: both options are needed. -/
def readSaveSession (arguments : List String) : Reading :=
  match readLast [hostFlag, tokensFlag] arguments with
  | some given =>
      match given.arguments, given.value? hostFlag, given.value? tokensFlag with
      | [], some host, some tokens => some (.saveSession host tokens, given)
      | _, _, _ => none
  | none => none

def readGetSetting (arguments : List String) : Reading :=
  match readLast [] arguments with
  | some given =>
      match given.arguments with
      | [key] => some (.getSetting key, given)
      | _ => none
  | none => none

def readSetSetting (arguments : List String) : Reading :=
  match readLast [] arguments with
  | some given =>
      match given.arguments with
      | [key, value] => some (.setSetting key value, given)
      | _ => none
  | none => none

/-- A reading below a level. A data directory that the lower level names counts, else that of the
upper one. -/
def below (given : Given) (reading : Reading) : Reading :=
  reading.map fun (command, inner) =>
    if (inner.value? dataFlag).isSome then (command, inner)
    else (command, { inner with values := given.values ++ inner.values })

def readSession (arguments : List String) : Reading :=
  match readInner ["show", "save", "clear"] arguments with
  | some (given, "show", rest) => below given (readPlain .showSession rest)
  | some (given, "save", rest) => below given (readSaveSession rest)
  | some (given, "clear", rest) => below given (readPlain .clearSession rest)
  | _ => none

def readSetting (arguments : List String) : Reading :=
  match readInner ["get", "set"] arguments with
  | some (given, "get", rest) => below given (readGetSetting rest)
  | some (given, "set", rest) => below given (readSetSetting rest)
  | _ => none

def commandNames : List String := ["dev", "session", "setting", "pick-folder", "call", "status"]

def CommandLine.read? (arguments : List String) : Option CommandLine :=
  let reading :=
    match readInner commandNames arguments with
    | some (given, "dev", rest) => below given (readDev rest)
    | some (given, "session", rest) => below given (readSession rest)
    | some (given, "setting", rest) => below given (readSetting rest)
    | some (given, "pick-folder", rest) => below given (readPlain .pickFolder rest)
    | some (given, "call", rest) => below given (readCall rest)
    | some (given, "status", rest) => below given (readStatus rest)
    | _ => none
  reading.map fun (command, given) => ⟨given.value? dataFlag, command⟩

end WebviewHost.Cli
