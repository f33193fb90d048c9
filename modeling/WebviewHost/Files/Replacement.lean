import WebviewHost.Files.Disk

/-!
# Replacing a file as a whole

A file gets new content through a private temporary file that is renamed over it. The actions are
listed one by one and any of them may be refused from outside, so that one can speak of the disk
at every point in between.
-/

set_option autoImplicit false

namespace WebviewHost.Files

inductive WriteStep where
  | openTemporary
  | restrict
  | fill
  | sync
  | publish
  deriving DecidableEq, Repr

def writeSteps : List WriteStep := [.openTemporary, .restrict, .fill, .sync, .publish]

/-- What goes wrong beyond what the disk itself refuses: the directories that cannot be made, by
their names, what is answered instead of a file's content, by its path, the actions of a replacement
that are refused, how many bytes reach the file when filling it is, and why the temporary file cannot
be removed.

A file is filled in the background. That a refusal of this is reported by the filling itself, and not
only by the action that follows, is an assumption about the library that does it. -/
structure Faults where
  unmade : List String → Option Cause
  unread : String → Option Cause
  refused : WriteStep → Option Cause
  torn : Nat
  stuck : Option Cause

def Faults.none : Faults := ⟨fun _ => .none, fun _ => .none, fun _ => .none, 0, .none⟩

def Faults.at (step : WriteStep) (cause : Cause) : Faults :=
  { Faults.none with refused := fun other => if other = step then some cause else .none }

/-- The owner may read and write, nobody else anything. -/
def privateMode : Nat := 0o600

def temporaryPath (path : String) : String := path ++ ".tmp"

/-- A file and the content it is to get. -/
structure Replacement where
  path : String
  content : ByteArray

namespace Replacement

def temporary (replacement : Replacement) : String := temporaryPath replacement.path

def onTemporary (replacement : Replacement) (disk : Disk) (change : Place → Disk) : Disk :=
  match disk.locate replacement.temporary with
  | .ok place => change place
  | .error _ => disk

/-- What an action does to the disk unless it is refused. -/
def perform (replacement : Replacement) (disk : Disk) : WriteStep → Except Cause Disk
  | .openTemporary => (disk.openTruncated replacement.temporary privateMode).map (·.2)
  | .restrict => .ok (replacement.onTemporary disk (disk.setMode · privateMode))
  | .fill => .ok (replacement.onTemporary disk (disk.setContent · replacement.content))
  | .sync => .ok disk
  | .publish => disk.rename replacement.temporary replacement.path

/-- What a refused action leaves behind: filling may have begun. -/
def interrupted (replacement : Replacement) (faults : Faults) (disk : Disk) : WriteStep → Disk
  | .fill => replacement.onTemporary disk
      (disk.setContent · (replacement.content.extract 0 faults.torn))
  | _ => disk

/-- The disk after an action and why the action failed, if it did. Every refusal is reported at its own
step, a refused filling too, as is assumed with `Faults`. -/
def act (replacement : Replacement) (faults : Faults) (disk : Disk) (step : WriteStep) :
    Disk × Option Cause :=
  match faults.refused step with
  | some cause => (replacement.interrupted faults disk step, some cause)
  | none =>
      match replacement.perform disk step with
      | .ok disk => (disk, none)
      | .error cause => (disk, some cause)

/-- Remove the temporary file after a failure, if that is possible. -/
def tidy (replacement : Replacement) (faults : Faults) (disk : Disk) : Disk :=
  match faults.stuck with
  | some _ => disk
  | none => (disk.removeFile replacement.temporary).toOption.getD disk

/-- How a replacement went: every disk it passed through after the one it began with, the last one
being its result, and the action that failed with the cause. -/
structure Course where
  passed : List Disk
  final : Disk
  failure : Option (WriteStep × Cause)

/-- Take actions in order until one fails; then tidy up. -/
def runSteps (replacement : Replacement) (faults : Faults) : Disk → List WriteStep → Course
  | disk, [] => ⟨[], disk, none⟩
  | disk, step :: rest =>
      match replacement.act faults disk step with
      | (next, none) =>
          let course := replacement.runSteps faults next rest
          { course with passed := next :: course.passed }
      | (next, some cause) =>
          let tidied := replacement.tidy faults next
          ⟨[next, tidied], tidied, some (step, cause)⟩

def run (replacement : Replacement) (faults : Faults) (disk : Disk) : Course :=
  replacement.runSteps faults disk writeSteps

/-- The file that a failed action is reported on: renaming is reported on the file itself, every
action before it on the temporary file. -/
def reportedPath (replacement : Replacement) : WriteStep → String
  | .publish => replacement.path
  | _ => replacement.temporary

end Replacement

end WebviewHost.Files
