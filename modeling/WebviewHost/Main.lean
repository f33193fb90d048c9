import WebviewHost.Cli.Reach

/-!
# Command line

Looks at the places that a command may need, runs the command on what is there, and writes back
what has changed. What to write and to print is decided by the run alone.
-/

set_option autoImplicit false

namespace WebviewHost.Main

open WebviewHost.Cli (CommandLine Outcome Surroundings changes placesTowards)
open WebviewHost.Files (Cause Disk Entry Faults Place privateMode temporaryPath)
open WebviewHost.Network (Machine)

def usage : String :=
  "Usage: publisher-cli [--data-dir DIR] dev|session|setting|pick-folder|call|status ...\n"

def closedMachine : Machine := fun _ => some .notAvailable

def pathOf (place : Place) : String := "/" ++ "/".intercalate place

/-- What is at a place. A directory refuses to be read as a file with a code of its own, and a place
that cannot be named holds nothing. -/
def entryAt (place : Place) : IO (Option Entry) := do
  try
    return some (.file 0o644 (← IO.FS.readBinFile (pathOf place)))
  catch
    | .inappropriateType _ 21 _ => return some (.directory 0o755)
    | .inappropriateType .. | .noFileOrDirectory .. | .invalidArgument .. => return none
    | refused => throw refused

/-- The working directory. One that has been removed goes by a name that nothing can have. -/
def workingDirectory : IO String := do
  try
    return (← IO.currentDir).toString
  catch _ =>
    return "/\x00"

/-- The disk, as far as it is on the way to the working directory and to some paths. -/
def survey (paths : List String) : IO Disk := do
  let workingDirectory ← workingDirectory
  let places := (("." :: paths).flatMap (placesTowards workingDirectory)).eraseDups
  let named := places.filter fun place => !place.any (·.toList.contains '\x00')
  let entries ← named.filterMapM fun place => do
    return (← entryAt place).map (place, ·)
  return ⟨entries, 0o022, workingDirectory⟩

/-- Write a file so that it is either as it was or holds the whole content. -/
def replaceFile (path : String) (content : ByteArray) : IO Unit := do
  let temporary := temporaryPath path
  let handle ← IO.FS.Handle.mk temporary .write
  IO.setAccessRights temporary ⟨⟨true, true, false⟩, {}, {}⟩
  handle.write content
  handle.flush
  IO.FS.rename temporary path

def writeBack (place : Place) : Entry → IO Unit
  | .directory _ => IO.FS.createDirAll (pathOf place)
  | .file _ content => replaceFile (pathOf place) content

/-- Why writing back failed, in the terms of the disk. -/
def causeOf : IO.Error → Cause
  | .resourceExhausted .. => .noSpaceLeft
  | .noFileOrDirectory .. => .notFound
  | .inappropriateType .. => .isADirectory
  | _ => .permissionDenied

partial def readLine (input : IO.FS.Stream) (line : ByteArray) : IO ByteArray := do
  let byte ← input.read 1
  if byte.isEmpty || byte.data.contains 0x0a then return line ++ byte
  else readLine input (line ++ byte)

/-- What the reader is said to object to: where in a text it stops is not told. -/
def objection (_ : String) : String := "syntax error"

/-- Print a text and say whether that worked. -/
def tryPrint (text : String) : IO Bool := do
  if text.isEmpty then return true
  try
    (← IO.getStdout).putStr text
    (← IO.getStdout).flush
    return true
  catch _ =>
    return false

/-- Write back what an outcome has changed. If that does not work, the command is as good as refused
at its first write. -/
def settle (line : CommandLine) (surroundings : Surroundings) (disk : Disk) (outcome : Outcome) :
    IO Outcome := do
  try
    for (place, entry) in changes disk outcome.disk do
      writeBack place entry
    return outcome
  catch error =>
    let faults := Faults.at .openTemporary (causeOf error)
    return line.run { surroundings with openingFaults := faults, writingFaults := faults } disk

/-- Run a command line on the disk, print what it prints before it writes, write back what it changed,
and print the rest. -/
def perform (line : CommandLine) (surroundings : Surroundings) : IO Outcome := do
  let disk ← survey (line.paths surroundings)
  let outcome := line.run surroundings disk
  if !(← tryPrint outcome.announced) then return outcome.unheard disk
  let outcome ← settle line surroundings disk outcome
  if !(← tryPrint outcome.printed) then return outcome.unheard disk
  return outcome

/-- Run a command line. What it asks is answered by one line of standard input. -/
def runLine (line : CommandLine) (home : Option String) : IO Outcome := do
  let surroundings : Surroundings := ⟨home, [], closedMachine, objection, .none, .none⟩
  let question := (line.run surroundings (← survey (line.paths surroundings))).prompted
  if question.isEmpty then perform line surroundings
  else
    (← IO.getStderr).putStr question
    (← IO.getStderr).flush
    let input ← readLine (← IO.getStdin) .empty
    let outcome ← perform line { surroundings with input := input.toList }
    return outcome.asking ""

end WebviewHost.Main

open WebviewHost WebviewHost.Main

def main (arguments : List String) : IO UInt32 := do
  match Cli.CommandLine.read? arguments with
  | none =>
      (← IO.getStderr).putStr usage
      return 2
  | some line =>
      let home := (← IO.getEnv "HOME").filter (!·.isEmpty)
      try
        let outcome ← runLine line home
        (← IO.getStderr).putStr outcome.errors
        return (outcome.exitCode.getD 0).toUInt32
      catch error =>
        (← IO.getStderr).putStr (Cli.Failure.plain (toString error)).text
        return 1
