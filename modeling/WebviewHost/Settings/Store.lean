import WebviewHost.Files.Replacement
import WebviewHost.Json.Printer
import WebviewHost.Json.Reader
import WebviewHost.Settings.Defaults

/-!
# Settings store

The settings document in memory beside its file. The file is replaced as a whole by every change,
and a change that does not reach the file is taken back in memory.
-/

set_option autoImplicit false

namespace WebviewHost.Settings

open WebviewHost.Files (Cause Disk Faults Replacement joinPath)

def settingsFile : String := "config.json"

/-- Why a store cannot be opened or changed: the file system refused an action on a path. -/
structure StoreError where
  path : String
  cause : Cause
  deriving DecidableEq, Repr

def StoreError.message (error : StoreError) : String :=
  "I/O error on " ++ error.path ++ ": " ++ error.cause.message

structure Store where
  path : String
  document : Members

def fileText (document : Members) : ByteArray := (Json.pretty (.object document)).toUTF8

/-- The document that a settings file stands for. Whatever is not a JSON object stands for the
defaults. -/
def readDocument (content : ByteArray) : Members :=
  match Json.readBytes? content with
  | some (.object document) => withDefaults document
  | _ => defaults

namespace Store

def save (faults : Faults) (path : String) (document : Members) (disk : Disk) :
    Except StoreError Unit × Disk :=
  let replacement : Replacement := ⟨path, fileText document⟩
  let course := replacement.run faults disk
  match course.failure with
  | some (step, cause) => (.error ⟨replacement.reportedPath step, cause⟩, course.final)
  | none => (.ok (), course.final)

/-- Open the store of a data directory, which is made if need be. A file that can be read is left as
it is. If the answer is that there is none, whoever gives it, one is written with the defaults. -/
def openIn (faults : Faults) (directory : String) (disk : Disk) :
    Except StoreError Store × Disk :=
  match disk.tryDirectories faults.unmade directory with
  | (.error cause, disk) => (.error ⟨directory, cause⟩, disk)
  | (.ok (), disk) =>
      let path := joinPath directory settingsFile
      match disk.tryReadFile faults.unread path with
      | .ok content => (.ok ⟨path, readDocument content⟩, disk)
      | .error .notFound =>
          match save faults path defaults disk with
          | (.ok (), disk) => (.ok ⟨path, defaults⟩, disk)
          | (.error error, disk) => (.error error, disk)
      | .error cause => (.error ⟨path, cause⟩, disk)

def get? (store : Store) (key : String) : Option Json := Members.get? store.document key

/-- The document before a key was given a value, from the one after it and what the key had. -/
def rollBack (key : String) (previous : Option Json) (changed : Members) : Members :=
  match previous with
  | some old => Members.insert key old changed
  | none => Members.erase key changed

/-- Give a key a value, in memory and in the file. If the file cannot be written, the change in
memory is taken back. -/
def set (faults : Faults) (store : Store) (key : String) (value : Json) (disk : Disk) :
    Except StoreError Unit × Store × Disk :=
  let previous := Members.get? store.document key
  let changed := Members.insert key value store.document
  match save faults store.path changed disk with
  | (.ok (), disk) => (.ok (), { store with document := changed }, disk)
  | (.error error, disk) =>
      (.error error, { store with document := rollBack key previous changed }, disk)

end Store

end WebviewHost.Settings
