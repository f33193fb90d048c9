import WebviewHost.Files.Disk
import WebviewHost.Text.Blank
import WebviewHost.Text.Utf8

/-!
# Folder pickers

A picker asks someone for a folder. One kind answers from a list prepared beforehand and notes
where it was told to start; the other asks on a terminal and reads one line for each question.
-/

set_option autoImplicit false

namespace WebviewHost.Bridge

open WebviewHost.Files (Disk)
open WebviewHost.Text (decodeUtf8 trimBlanks)

inductive PickerError where
  | io (reason : String)
  | notADirectory (path : String)
  deriving DecidableEq, Repr

def PickerError.message : PickerError → String
  | .io reason => "folder dialog I/O failed: " ++ reason
  | .notADirectory path => "not a directory: " ++ path

/-- What a picker comes back with: the bytes of a path, nothing if the choice was cancelled, or a
failure. -/
abbrev Pick := Except PickerError (Option (List UInt8))

/-- A terminal: what can still be read from it, what has been written to it, and why writing fails,
if it does. -/
structure Terminal where
  input : List UInt8
  prompted : String
  broken : Option String

def promptText : Option String → String
  | some start => "Folder path (empty to cancel) [" ++ start ++ "]: "
  | none => "Folder path (empty to cancel): "

def takeLine : List UInt8 → List UInt8 × List UInt8
  | [] => ([], [])
  | byte :: rest =>
      if byte = 0x0a then ([byte], rest)
      else
        let (line, after) := takeLine rest
        (byte :: line, after)

/-- What a line answers. The end of the input and a blank line cancel. -/
def pickOfLine (disk : Disk) (line : List UInt8) : Pick :=
  match decodeUtf8 line with
  | .error fault => .error (.io fault.message)
  | .ok text =>
      let path := String.ofList (trimBlanks text.toList)
      if path.isEmpty then .ok none
      else if disk.isDirectory path then .ok (some (Text.encodeUtf8 path))
      else .error (.notADirectory path)

/-- Ask on a terminal. If the question cannot be written, nothing is read. -/
def Terminal.ask (terminal : Terminal) (disk : Disk) (start : Option String) : Pick × Terminal :=
  match terminal.broken with
  | some reason => (.error (.io reason), terminal)
  | none =>
      let (line, rest) := takeLine terminal.input
      (pickOfLine disk line,
        { terminal with input := rest, prompted := terminal.prompted ++ promptText start })

inductive Picker where
  | prepared (answers : List Pick) (starts : List (Option String))
  | onTerminal (terminal : Terminal)

/-- Ask for a folder, starting at a directory if one is given. A prepared picker without answers
left cancels. -/
def Picker.ask (picker : Picker) (disk : Disk) (start : Option String) : Pick × Picker :=
  match picker with
  | .prepared answers starts =>
      (answers.head?.getD (.ok none), .prepared answers.tail (starts ++ [start]))
  | .onTerminal terminal =>
      let (pick, terminal) := terminal.ask disk start
      (pick, .onTerminal terminal)

end WebviewHost.Bridge
