import WebviewHost.Bridge.Call
import WebviewHost.Bridge.Picker
import WebviewHost.Settings.Session
import WebviewHost.Settings.Store

/-!
# Stored bridge

The bridge that keeps what it is given: settings and the session live in a store on disk, folders
come from a picker if one is attached. Every write is one change of the store, so a write that is
refused leaves both the document and the file alone.
-/

set_option autoImplicit false

namespace WebviewHost.Bridge

open WebviewHost.Files (Cause Disk Faults)
open WebviewHost.Settings (SessionRecord Store StoreError)

structure StoredBridge where
  store : Store
  picker : Option Picker

namespace StoredBridge

def openIn (faults : Faults) (directory : String) (disk : Disk) :
    Except StoreError StoredBridge × Disk :=
  match Store.openIn faults directory disk with
  | (.ok store, disk) => (.ok ⟨store, none⟩, disk)
  | (.error error, disk) => (.error error, disk)

def attach (bridge : StoredBridge) (picker : Picker) : StoredBridge :=
  { bridge with picker := some picker }

/-- The stored session; a member that is no record counts as none. -/
def sessionRecord (bridge : StoredBridge) : Option SessionRecord :=
  (bridge.store.get? Settings.sessionKey).bind SessionRecord.ofStored?

/-- Write one member of the settings document and say whether that took effect. -/
def persist (faults : Faults) (bridge : StoredBridge) (key : String) (value : Json) (disk : Disk) :
    Bool × StoredBridge × Disk :=
  match bridge.store.set faults key value disk with
  | (.ok (), store, disk) => (true, { bridge with store }, disk)
  | (.error _, store, disk) => (false, { bridge with store }, disk)

/-- Where a folder dialog starts: at the remembered folder, if that is a non-empty string. -/
def startDirectory (bridge : StoredBridge) : Option String :=
  match bridge.store.get? Settings.lastDirectoryKey with
  | some (.string start) => if start.isEmpty then none else some start
  | _ => none

/-- A chosen path, made absolute, which takes the working directory if it is relative. -/
def absolutePath (disk : Disk) (path : List UInt8) : Except Cause (List UInt8) :=
  if path.head? = some 0x2f then .ok path
  else disk.currentDirectory.map fun directory =>
    Text.encodeUtf8 directory ++ (if Files.endsInSlash directory then path else 0x2f :: path)

/-- The text of a chosen path, made absolute. Bytes that are not UTF-8 are replaced. -/
def selectionText (disk : Disk) (path : List UInt8) : Except Cause String :=
  (absolutePath disk path).map Text.decodeUtf8Lossy

/-- Remember a selection. It counts also if it cannot be remembered. -/
def finishSelection (faults : Faults) (bridge : StoredBridge) (pick : Pick) (disk : Disk) :
    Except BridgeError (Option String) × StoredBridge × Disk :=
  match pick with
  | .error error => (.error (.host error.message), bridge, disk)
  | .ok none | .ok (some []) => (.ok none, bridge, disk)
  | .ok (some path) =>
      match selectionText disk path with
      | .error cause => (.error (.host cause.message), bridge, disk)
      | .ok selected =>
          let (_, bridge, disk) :=
            bridge.persist faults Settings.lastDirectoryKey (.string selected) disk
          (.ok (some selected), bridge, disk)

/-- Ask the attached picker for a folder. Without a picker nothing is chosen. -/
def selectFolder (faults : Faults) (bridge : StoredBridge) (disk : Disk) :
    Except BridgeError (Option String) × StoredBridge × Disk :=
  match bridge.picker with
  | none => (.ok none, bridge, disk)
  | some picker =>
      let (pick, picker) := picker.ask disk bridge.startDirectory
      finishSelection faults (bridge.attach picker) pick disk

def perform (faults : Faults) : Performer (StoredBridge × Disk)
  | .selectFolder, (bridge, disk) =>
      let (chosen, bridge, disk) := bridge.selectFolder faults disk
      (chosen.map .folder, bridge, disk)
  | .saveSession tokens target, (bridge, disk) =>
      let record : SessionRecord := ⟨tokens, target⟩
      let (done, bridge, disk) := bridge.persist faults Settings.sessionKey record.toStored disk
      (.ok (.written done), bridge, disk)
  | .getSession, (bridge, disk) =>
      (.ok (.value (bridge.sessionRecord.map (·.tokens))), bridge, disk)
  | .clearSession, (bridge, disk) =>
      let (done, bridge, disk) := bridge.persist faults Settings.sessionKey .null disk
      (.ok (.written done), bridge, disk)
  | .saveSetting key value, (bridge, disk) =>
      if Settings.isReserved key then (.ok (.written false), bridge, disk)
      else
        let (done, bridge, disk) := bridge.persist faults key value disk
        (.ok (.written done), bridge, disk)
  | .getSetting key, (bridge, disk) => (.ok (.value (bridge.store.get? key)), bridge, disk)

end StoredBridge

end WebviewHost.Bridge
