import WebviewHost.Bridge.Memory

/-!
# Bridge slots

A slot holds the bridge of a program from the moment it is installed. Code may run before that and
wait for it. A waiting room is a slot together with what its bridges act on and the tasks that wait;
in a lobby the bridges have names.
-/

set_option autoImplicit false

namespace WebviewHost.Bridge

structure Slot (β : Type) where
  installed : Option β
  deriving DecidableEq, Repr

namespace Slot

variable {β : Type}

def empty : Slot β := ⟨none⟩

/-- Install a bridge. The first one stays for good. -/
def install (slot : Slot β) (bridge : β) : Except BridgeError Unit × Slot β :=
  match slot.installed with
  | some _ => (.error .alreadyInstalled, slot)
  | none => (.ok (), ⟨some bridge⟩)

def get (slot : Slot β) : Except BridgeError β :=
  match slot.installed with
  | some bridge => .ok bridge
  | none => .error .unavailable

/-- The installed bridge, or nothing while one has to wait. -/
def ready? (slot : Slot β) : Option β := slot.installed

def isReady (slot : Slot β) : Bool := slot.installed.isSome

end Slot

def handleText : String := "BridgeHandle \x7b .. \x7d"

/-- A task that waits for the bridge and then sets one setting to `true`, once. -/
structure Waiter where
  key : String
  finished : Bool
  deriving DecidableEq, Repr

def Waiter.call (waiter : Waiter) : Call := .saveSetting waiter.key (.bool true)

/-- A slot, the world that its bridges act on, and the tasks that wait, in the order in which they
were started. -/
structure WaitingRoom (β σ : Type) where
  slot : Slot β
  world : σ
  waiters : List Waiter

namespace WaitingRoom

variable {β σ : Type} (perform : β → Performer σ)

def install (room : WaitingRoom β σ) (bridge : β) : Except BridgeError Unit × WaitingRoom β σ :=
  let (outcome, slot) := room.slot.install bridge
  (outcome, { room with slot })

def await (room : WaitingRoom β σ) (key : String) : WaitingRoom β σ :=
  { room with waiters := room.waiters ++ [⟨key, false⟩] }

/-- What a waiting task does when it may run: if a bridge is installed it makes its call there and
is finished. -/
def runWaiter (slot : Slot β) (waiter : Waiter) (world : σ) : Waiter × σ :=
  match waiter.finished, slot.ready? with
  | false, some bridge =>
      ({ waiter with finished := true }, (perform bridge waiter.call world).2)
  | _, _ => (waiter, world)

/-- Let the task at a position run. -/
def letRun (room : WaitingRoom β σ) (position : Nat) : WaitingRoom β σ :=
  match room.waiters[position]? with
  | none => room
  | some waiter =>
      let (waiter, world) := runWaiter perform room.slot waiter room.world
      { room with waiters := room.waiters.set position waiter, world }

/-- Let all tasks run, in the order in which they were started. -/
def settle (room : WaitingRoom β σ) : WaitingRoom β σ :=
  (List.range room.waiters.length).foldl (letRun perform) room

end WaitingRoom

/-- Bridges for rehearsals by their names. -/
abbrev NamedBridges := List (String × MemoryBridge)

namespace NamedBridges

def bridge? (bridges : NamedBridges) (name : String) : Option MemoryBridge :=
  (bridges.find? (·.1 = name)).map (·.2)

def update (bridges : NamedBridges) (name : String) (bridge : MemoryBridge) : NamedBridges :=
  (name, bridge) :: bridges.filter (·.1 ≠ name)

def perform (name : String) : Performer NamedBridges
  | call, bridges =>
      let (answer, bridge) := MemoryBridge.perform call ((bridge? bridges name).getD .fresh)
      (answer, update bridges name bridge)

end NamedBridges

/-- A waiting room for bridges that have names. -/
abbrev Lobby := WaitingRoom String NamedBridges

namespace Lobby

def empty : Lobby := ⟨.empty, [], []⟩

def bridge? (lobby : Lobby) (name : String) : Option MemoryBridge :=
  NamedBridges.bridge? lobby.world name

def update (lobby : Lobby) (name : String) (bridge : MemoryBridge) : Lobby :=
  { lobby with world := NamedBridges.update lobby.world name bridge }

/-- Install the bridge of a name, which is made when it is named for the first time. -/
def install (lobby : Lobby) (name : String) : Except BridgeError Unit × Lobby :=
  let lobby := if (lobby.bridge? name).isSome then lobby else lobby.update name .fresh
  WaitingRoom.install lobby name

def perform : Performer Lobby
  | call, lobby =>
      match lobby.slot.get with
      | .error error => (.error error, lobby)
      | .ok name =>
          let (answer, world) := NamedBridges.perform name call lobby.world
          (answer, { lobby with world })

def settle (lobby : Lobby) : Lobby := WaitingRoom.settle NamedBridges.perform lobby

end Lobby

end WebviewHost.Bridge
