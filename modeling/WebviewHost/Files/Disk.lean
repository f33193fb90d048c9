/-!
# Disk

A file tree as one process sees it: regular files and directories with their permission bits, the
process's creation mask and its working directory. There are no links and no other writers, and
the process may read and write whatever exists.
-/

set_option autoImplicit false

namespace WebviewHost.Files

inductive Cause where
  | notFound
  | alreadyExists
  | notADirectory
  | isADirectory
  | nameTooLong
  | noSpaceLeft
  | permissionDenied
  | nulInPath
  deriving DecidableEq, Repr

/-- The wording of a refusal, with the number the system gives it. -/
def Cause.message : Cause → String
  | .notFound => "No such file or directory (os error 2)"
  | .alreadyExists => "File exists (os error 17)"
  | .notADirectory => "Not a directory (os error 20)"
  | .isADirectory => "Is a directory (os error 21)"
  | .nameTooLong => "File name too long (os error 36)"
  | .noSpaceLeft => "No space left on device (os error 28)"
  | .permissionDenied => "Permission denied (os error 13)"
  | .nulInPath => "file name contained an unexpected NUL byte"

/-- Where something is: the names from the root directory down to it. -/
abbrev Place := List String

instance contentsDecidableEq : DecidableEq ByteArray := ByteArray.instDecidableEq

inductive Entry where
  | file (mode : Nat) (content : ByteArray)
  | directory (mode : Nat)
  deriving DecidableEq

def Entry.mode : Entry → Nat
  | .file mode _ => mode
  | .directory mode => mode

/-- A file tree, the creation mask and the working directory. The root directory has no entry of
its own: it is always there. -/
structure Disk where
  entries : List (Place × Entry)
  umask : Nat
  workingDirectory : String

/-- The longest name of a file or directory, in bytes. -/
def longestName : Nat := 255

/-- A path of this many bytes is too long. -/
def pathLimit : Nat := 4096

def splitAt (separator : Char) : List Char → List (List Char)
  | [] => [[]]
  | c :: rest =>
      match splitAt separator rest with
      | [] => [[c]]
      | first :: others =>
          if c = separator then [] :: first :: others else (c :: first) :: others

/-- The names in a path, without the empty ones that repeated slashes leave. -/
def pathNames (path : String) : List String :=
  ((splitAt '/' path.toList).filter (!·.isEmpty)).map String.ofList

def isAbsolute (path : String) : Bool := path.toList.head? = some '/'

def endsInSlash (path : String) : Bool := path.toList.getLast? = some '/'

/-- A path below a directory; nothing is said twice if the directory ends in a slash. -/
def joinPath (directory name : String) : String :=
  if endsInSlash directory || directory.isEmpty then directory ++ name
  else directory ++ "/" ++ name

namespace Disk

def entry? (disk : Disk) (place : Place) : Option Entry :=
  if place.isEmpty then some (.directory 0o755)
  else (disk.entries.find? (·.1 = place)).map (·.2)

def put (disk : Disk) (place : Place) (entry : Entry) : Disk :=
  { disk with entries := (place, entry) :: disk.entries.filter (·.1 ≠ place) }

def drop (disk : Disk) (place : Place) : Disk :=
  { disk with entries := disk.entries.filter (·.1 ≠ place) }

/-- One name further from a place, which has to be a directory. A single dot stays, two dots go to
the directory above, and a name leads to a place at which there may be nothing. -/
def step (disk : Disk) (here : Place) (name : String) : Except Cause Place :=
  match disk.entry? here with
  | none => .error .notFound
  | some (.file _ _) => .error .notADirectory
  | some (.directory _) =>
      if name = "." then .ok here
      else if name = ".." then .ok here.dropLast
      else if longestName < name.utf8ByteSize then .error .nameTooLong
      else .ok (here ++ [name])

def follow (disk : Disk) (here : Place) (names : List String) : Except Cause Place :=
  names.foldlM disk.step here

def workingPlace (disk : Disk) : Place := pathNames disk.workingDirectory

def startOf (disk : Disk) (path : String) : Place :=
  if isAbsolute path then [] else disk.workingPlace

/-- The place a path leads to. Everything on the way has to be there, the end need not be; but if a
path ends in a slash, a file at its end is refused. -/
def locate (disk : Disk) (path : String) : Except Cause Place :=
  if path.isEmpty then .error .notFound
  else if path.toList.contains '\x00' then .error .nulInPath
  else if pathLimit ≤ path.utf8ByteSize then .error .nameTooLong
  else do
    let place ← disk.follow (disk.startOf path) (pathNames path)
    match disk.entry? place with
    | some (.file _ _) => if endsInSlash path then .error .notADirectory else .ok place
    | _ => .ok place

def lookUp (disk : Disk) (path : String) : Except Cause Entry := do
  match disk.entry? (← disk.locate path) with
  | some entry => .ok entry
  | none => .error .notFound

def pathExists (disk : Disk) (path : String) : Bool := (disk.lookUp path).toOption.isSome

def isDirectory (disk : Disk) (path : String) : Bool :=
  match disk.lookUp path with
  | .ok (.directory _) => true
  | _ => false

def readFile (disk : Disk) (path : String) : Except Cause ByteArray := do
  match ← disk.lookUp path with
  | .file _ content => .ok content
  | .directory _ => .error .isADirectory

/-- Try to read a file, which may be refused from outside, by its path. -/
def tryReadFile (disk : Disk) (refused : String → Option Cause) (path : String) :
    Except Cause ByteArray :=
  match refused path with
  | some cause => .error cause
  | none => disk.readFile path

/-- The working directory, unless it has been removed. -/
def currentDirectory (disk : Disk) : Except Cause String :=
  match disk.entry? disk.workingPlace with
  | some (.directory _) => .ok disk.workingDirectory
  | _ => .error .notFound

/-- Permission bits as the creation mask leaves them. -/
def maskedMode (disk : Disk) (mode : Nat) : Nat := mode &&& (0o7777 ^^^ (disk.umask &&& 0o7777))

/-- Open a file for writing. An existing file is emptied and keeps its mode; a new one gets the
wanted mode as far as the mask allows. The result says where the file is. -/
def openTruncated (disk : Disk) (path : String) (mode : Nat) : Except Cause (Place × Disk) := do
  let place ← disk.locate path
  match disk.entry? place with
  | some (.file old _) => .ok (place, disk.put place (.file old .empty))
  | some (.directory _) => .error .isADirectory
  | none =>
      if endsInSlash path then .error .isADirectory
      else .ok (place, disk.put place (.file (disk.maskedMode mode) .empty))

def setMode (disk : Disk) (place : Place) (mode : Nat) : Disk :=
  match disk.entry? place with
  | some (.file _ content) => disk.put place (.file mode content)
  | some (.directory _) => disk.put place (.directory mode)
  | none => disk

def setContent (disk : Disk) (place : Place) (content : ByteArray) : Disk :=
  match disk.entry? place with
  | some (.file mode _) => disk.put place (.file mode content)
  | _ => disk

def rename (disk : Disk) (source target : String) : Except Cause Disk := do
  let sourcePlace ← disk.locate source
  let targetPlace ← disk.locate target
  match disk.entry? sourcePlace, disk.entry? targetPlace with
  | none, _ => .error .notFound
  | some (.directory _), _ => .error .isADirectory
  | some (.file _ _), some (.directory _) => .error .isADirectory
  | some (.file mode content), _ =>
      .ok ((disk.drop sourcePlace).put targetPlace (.file mode content))

def removeFile (disk : Disk) (path : String) : Except Cause Disk := do
  let place ← disk.locate path
  match disk.entry? place with
  | none => .error .notFound
  | some (.directory _) => .error .isADirectory
  | some (.file _ _) => .ok (disk.drop place)

/-- Make a directory at the end of some names, in a directory that is there. -/
def makeDirectory (disk : Disk) (start : Place) (names : List String) : Except Cause Disk := do
  let place ← disk.follow start names
  match disk.entry? place with
  | some _ => .error .alreadyExists
  | none => .ok (disk.put place (.directory (disk.maskedMode 0o777)))

def leadsToDirectory (disk : Disk) (start : Place) (names : List String) : Bool :=
  match disk.follow start names with
  | .error _ => false
  | .ok place =>
      match disk.entry? place with
      | some (.directory _) => true
      | _ => false

/-- Try to make a directory, which may be refused from outside. One that is there already is fine. -/
def tryDirectory (disk : Disk) (refused : Option Cause) (start : Place) (names : List String) :
    Except Cause Unit × Disk :=
  match disk.makeDirectory start names, refused with
  | .ok made, none => (.ok (), made)
  | .ok _, some cause => (.error cause, disk)
  | .error cause, _ => (if disk.leadsToDirectory start names then .ok () else .error cause, disk)

/-- Make a directory and those above it, the names being given from the end. If one of them cannot be
made, those above it that could be stay. -/
def makeDirectoriesUp (disk : Disk) (refused : List String → Option Cause) (start : Place) :
    List String → Except Cause Unit × Disk
  | [] => (.ok (), disk)
  | name :: above =>
      let names := (name :: above).reverse
      match disk.makeDirectory start names with
      | .error .notFound =>
          match disk.makeDirectoriesUp refused start above with
          | (.ok (), disk) => disk.tryDirectory (refused names) start names
          | failed => failed
      | _ => disk.tryDirectory (refused names) start names

/-- Try to make a directory and those above it, while some of them, by their names, are refused from
outside. -/
def tryDirectories (disk : Disk) (refused : List String → Option Cause) (path : String) :
    Except Cause Unit × Disk :=
  if path.toList.contains '\x00' then (.error .nulInPath, disk)
  else if pathLimit ≤ path.utf8ByteSize then (.error .nameTooLong, disk)
  else
    disk.makeDirectoriesUp refused (disk.startOf path)
      ((pathNames path).filter (· ≠ ".")).reverse

def makeDirectories (disk : Disk) (path : String) : Except Cause Disk :=
  match disk.tryDirectories (fun _ => none) path with
  | (.ok (), disk) => .ok disk
  | (.error cause, _) => .error cause

end Disk

end WebviewHost.Files
