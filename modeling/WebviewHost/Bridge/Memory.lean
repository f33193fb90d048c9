import WebviewHost.Bridge.Call
import WebviewHost.Settings.Defaults
import WebviewHost.Settings.Session

/-!
# In-memory bridge

A bridge for rehearsals: it keeps settings and the session in memory, answers folder dialogs from a
queue, records what was called, and can be told to fail the next write or the next call.
-/

set_option autoImplicit false

namespace WebviewHost.Bridge

open WebviewHost.Settings (SessionRecord)

structure MemoryBridge where
  settings : Members
  session : Option SessionRecord
  folders : List (Option String)
  calls : List String
  failNextWrite : Bool
  failNextCall : Option String

namespace MemoryBridge

def fresh : MemoryBridge := ⟨[], none, [], [], false, none⟩

def queueFolder (bridge : MemoryBridge) (answer : Option String) : MemoryBridge :=
  { bridge with folders := bridge.folders ++ [answer] }

def armWrite (bridge : MemoryBridge) : MemoryBridge := { bridge with failNextWrite := true }

def armCall (bridge : MemoryBridge) (reason : String) : MemoryBridge :=
  { bridge with failNextCall := some reason }

def setting? (bridge : MemoryBridge) (key : String) : Option Json :=
  Members.get? bridge.settings key

/-- Write unless the next write is to fail; the switch is used up either way. -/
def write (bridge : MemoryBridge) (change : MemoryBridge → MemoryBridge) :
    Answer × MemoryBridge :=
  if bridge.failNextWrite then (.ok (.written false), { bridge with failNextWrite := false })
  else (.ok (.written true), change bridge)

/-- What a call does that is not failed by its switch. -/
def serve : Performer MemoryBridge
  | .selectFolder, bridge =>
      let chosen := (bridge.folders.head?.getD none).filter (!·.isEmpty)
      (.ok (.folder chosen), { bridge with folders := bridge.folders.tail })
  | .saveSession tokens host, bridge =>
      bridge.write ({ · with session := some ⟨tokens, host⟩ })
  | .getSession, bridge => (.ok (.value (bridge.session.map (·.tokens))), bridge)
  | .clearSession, bridge => bridge.write ({ · with session := none })
  | .saveSetting key value, bridge =>
      if Settings.isReserved key then
        (.ok (.written false), { bridge with failNextWrite := false })
      else bridge.write fun bridge =>
        { bridge with settings := Members.insert key value bridge.settings }
  | .getSetting key, bridge => (.ok (.value (bridge.setting? key)), bridge)

/-- Perform a call: record it, then fail it if that was asked for. -/
def perform : Performer MemoryBridge
  | call, bridge =>
      let entered := { bridge with calls := bridge.calls ++ [call.name] }
      match entered.failNextCall with
      | some reason => (.error (.host reason), { entered with failNextCall := none })
      | none => serve call entered

end MemoryBridge

end WebviewHost.Bridge
