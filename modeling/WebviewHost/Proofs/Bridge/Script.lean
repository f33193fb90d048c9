import Mathlib.Data.List.DropRight
import WebviewHost.Bridge.Memory

/-!
# Scripted rehearsals

A bridge in memory can be told beforehand how to answer: which folders are chosen, and that the next
write or the next call is to fail. What that means for a call is read off from what has happened
before it, without the state of the bridge: a switch is set if nothing has used it up since, and
folders are chosen in the order in which they were queued.
-/

set_option autoImplicit false

namespace WebviewHost.Bridge

open WebviewHost.Settings (isReserved)

def Call.isWrite : Call → Bool
  | .saveSession _ _ | .clearSession | .saveSetting _ _ => true
  | _ => false

namespace MemoryBridge

/-! ## Cues and events -/

/-- What a rehearsal does with a bridge. -/
inductive Cue where
  | call (call : Call)
  | queueFolder (folder : Option String)
  | failNextWrite
  | failNextCall (reason : String)
  | reset

/-- What has happened to a bridge: a cue, and the answer if it was a call. -/
inductive Event where
  | called (call : Call) (answer : Answer)
  | queuedFolder (folder : Option String)
  | armedWrite
  | armedCall (reason : String)
  | reset

namespace Event

def cue : Event → Cue
  | .called call _ => .call call
  | .queuedFolder folder => .queueFolder folder
  | .armedWrite => .failNextWrite
  | .armedCall reason => .failNextCall reason
  | .reset => .reset

def isReset : Event → Bool
  | .reset => true
  | _ => false

def operation? : Event → Option String
  | .called call _ => some call.name
  | _ => none

/-- Whether an event decides if the next call fails. -/
def rulesCalls : Event → Bool
  | .called _ _ | .armedCall _ | .reset => true
  | _ => false

/-- Whether an event decides if the next write is refused. A write that failed as a call does not. -/
def rulesWrites : Event → Bool
  | .called call (.ok _) => call.isWrite
  | .armedWrite | .reset => true
  | _ => false

def takesFolder : Event → Bool
  | .called .selectFolder (.ok _) => true
  | _ => false

/-- The folders that wait to be chosen after an event, the next one first. -/
def queueAfter (queue : List (Option String)) (event : Event) : List (Option String) :=
  match event with
  | .queuedFolder folder => queue ++ [folder]
  | .called .selectFolder (.ok _) => queue.tail
  | .reset => []
  | _ => queue

end Event

def latest? (counts : Event → Bool) (past : List Event) : Option Event :=
  past.reverse.find? counts

def sinceReset (past : List Event) : List Event := past.rtakeWhile (!·.isReset)

def waiting (past : List Event) : List (Option String) := past.foldl Event.queueAfter []

/-- A bridge, and what has happened to it. -/
structure Rehearsal where
  bridge : MemoryBridge
  past : List Event

namespace Rehearsal

def begin : Rehearsal := ⟨.fresh, []⟩

def next (rehearsal : Rehearsal) (cue : Cue) : Rehearsal :=
  match cue with
  | .call call =>
      let (answer, bridge) := perform call rehearsal.bridge
      ⟨bridge, rehearsal.past ++ [.called call answer]⟩
  | .queueFolder folder =>
      ⟨rehearsal.bridge.queueFolder folder, rehearsal.past ++ [.queuedFolder folder]⟩
  | .failNextWrite => ⟨rehearsal.bridge.armWrite, rehearsal.past ++ [.armedWrite]⟩
  | .failNextCall reason => ⟨rehearsal.bridge.armCall reason, rehearsal.past ++ [.armedCall reason]⟩
  | .reset => ⟨.fresh, rehearsal.past ++ [.reset]⟩

def run (rehearsal : Rehearsal) (cues : List Cue) : Rehearsal := cues.foldl next rehearsal

end Rehearsal

/-! ## One call -/

/-- What a call that is not made to fail answers, and what it leaves behind. -/
inductive Serves (bridge : MemoryBridge) : Call → Reply → MemoryBridge → Prop where
  | folder :
      Serves bridge .selectFolder (.folder ((bridge.folders.head?.getD none).filter (!·.isEmpty)))
        { bridge with folders := bridge.folders.tail }
  | session : Serves bridge .getSession (.value (bridge.session.map (·.tokens))) bridge
  | setting {key : String} : Serves bridge (.getSetting key) (.value (bridge.setting? key)) bridge
  | refused {call : Call} : call.isWrite = true → bridge.failNextWrite = true →
      Serves bridge call (.written false) { bridge with failNextWrite := false }
  | reserved {key : String} {value : Json} : bridge.failNextWrite = false →
      isReserved key = true → Serves bridge (.saveSetting key value) (.written false) bridge
  | savedSession {tokens : Json} {host : String} : bridge.failNextWrite = false →
      Serves bridge (.saveSession tokens host) (.written true)
        { bridge with session := some ⟨tokens, host⟩ }
  | clearedSession : bridge.failNextWrite = false →
      Serves bridge .clearSession (.written true) { bridge with session := none }
  | savedSetting {key : String} {value : Json} : bridge.failNextWrite = false →
      isReserved key = false →
      Serves bridge (.saveSetting key value) (.written true)
        { bridge with settings := Members.insert key value bridge.settings }

/-- What a call answers and what it leaves behind. It is noted also if it fails. -/
inductive Performs (bridge : MemoryBridge) (call : Call) : Answer → MemoryBridge → Prop where
  | failed {reason : String} : bridge.failNextCall = some reason →
      Performs bridge call (.error (.host reason))
        { bridge with calls := bridge.calls ++ [call.name], failNextCall := none }
  | served {reply : Reply} {after : MemoryBridge} : bridge.failNextCall = none →
      Serves { bridge with calls := bridge.calls ++ [call.name] } call reply after →
      Performs bridge call (.ok reply) after

theorem exists_serves_of_write {call : Call} {bridge : MemoryBridge}
    (change : MemoryBridge → MemoryBridge) (isWrite : call.isWrite = true)
    (writes : serve call bridge = bridge.write change)
    (lands : bridge.failNextWrite = false → Serves bridge call (.written true) (change bridge)) :
    ∃ reply after, serve call bridge = (.ok reply, after) ∧ Serves bridge call reply after := by
  rw [writes]
  unfold write
  cases armed : bridge.failNextWrite with
  | true => exact ⟨_, _, rfl, .refused isWrite armed⟩
  | false => exact ⟨_, _, rfl, lands armed⟩

theorem exists_serves (call : Call) (bridge : MemoryBridge) :
    ∃ reply after, serve call bridge = (.ok reply, after) ∧ Serves bridge call reply after := by
  cases call with
  | selectFolder => exact ⟨_, _, rfl, .folder⟩
  | getSession => exact ⟨_, _, rfl, .session⟩
  | getSetting key => exact ⟨_, _, rfl, .setting⟩
  | saveSession tokens host =>
      exact exists_serves_of_write ({ · with session := some ⟨tokens, host⟩ }) rfl rfl .savedSession
  | clearSession =>
      exact exists_serves_of_write ({ · with session := none }) rfl rfl .clearedSession
  | saveSetting key value =>
      cases reserved : isReserved key with
      | false =>
          refine exists_serves_of_write _ rfl (if_neg (by simp [reserved])) fun free => ?_
          exact .savedSetting free reserved
      | true =>
          refine ⟨.written false, { bridge with failNextWrite := false }, if_pos reserved, ?_⟩
          cases armed : bridge.failNextWrite with
          | true => exact .refused rfl armed
          | false =>
              have same : { bridge with failNextWrite := false } = bridge := by rw [← armed]
              rw [same]
              exact .reserved armed reserved

theorem performs (call : Call) (bridge : MemoryBridge) :
    Performs bridge call (perform call bridge).1 (perform call bridge).2 := by
  cases armed : bridge.failNextCall with
  | some reason =>
      simp only [perform, armed]
      exact .failed armed
  | none =>
      obtain ⟨reply, after, served, serves⟩ :=
        exists_serves call { bridge with calls := bridge.calls ++ [call.name] }
      simp only [perform, armed]
      rw [armed] at served
      rw [served]
      exact .served armed serves

section Serves

variable {bridge after : MemoryBridge} {call : Call} {reply : Reply}

theorem Serves.calls (serves : Serves bridge call reply after) : after.calls = bridge.calls := by
  cases serves <;> rfl

theorem Serves.failNextCall (serves : Serves bridge call reply after) :
    after.failNextCall = bridge.failNextCall := by
  cases serves <;> rfl

/-- Writes use the switch for writes up, and nothing else does. -/
theorem Serves.failNextWrite (serves : Serves bridge call reply after) :
    after.failNextWrite = (bridge.failNextWrite && !call.isWrite) := by
  cases serves with
  | folder => exact (Bool.and_true _).symm
  | session => exact (Bool.and_true _).symm
  | setting => exact (Bool.and_true _).symm
  | refused isWrite armed => simp [isWrite]
  | reserved free _ => simp [free]
  | savedSession free => simp [free]
  | clearedSession free => simp [free]
  | savedSetting free _ => simp [free]

theorem Serves.folders (serves : Serves bridge call reply after) :
    after.folders = (Event.called call (.ok reply)).queueAfter bridge.folders := by
  cases serves with
  | refused isWrite armed => cases call <;> first | rfl | cases isWrite
  | _ => rfl

end Serves

/-! ## The past -/

section Past

variable {counts : Event → Bool} {event : Event}

theorem latest?_concat_of_counted (counted : counts event = true) (past : List Event) :
    latest? counts (past ++ [event]) = some event := by
  unfold latest?
  rw [List.reverse_append, List.reverse_singleton, List.singleton_append,
    List.find?_cons_of_pos counted]

theorem latest?_concat_of_aside (aside : counts event = false) (past : List Event) :
    latest? counts (past ++ [event]) = latest? counts past := by
  unfold latest?
  rw [List.reverse_append, List.reverse_singleton, List.singleton_append,
    List.find?_cons_of_neg (by simp [aside])]

theorem sinceReset_concat (kept : event.isReset = false) (past : List Event) :
    sinceReset (past ++ [event]) = sinceReset past ++ [event] :=
  List.rtakeWhile_concat_pos _ _ _ (by simp [kept])

theorem sinceReset_concat_reset (past : List Event) : sinceReset (past ++ [.reset]) = [] :=
  List.rtakeWhile_concat_neg _ _ _ (by simp [Event.isReset])

end Past

theorem waiting_concat (past : List Event) (event : Event) :
    waiting (past ++ [event]) = event.queueAfter (waiting past) := by
  unfold waiting
  rw [List.foldl_append]
  rfl

/-- What the switches, the queue and the log of a bridge say about the past. -/
structure Reflects (past : List Event) (bridge : MemoryBridge) : Prop where
  calls : bridge.calls = (sinceReset past).filterMap Event.operation?
  failNextCall : ∀ reason, bridge.failNextCall = some reason ↔
    latest? Event.rulesCalls past = some (.armedCall reason)
  failNextWrite : bridge.failNextWrite = true ↔ latest? Event.rulesWrites past = some .armedWrite
  folders : bridge.folders = waiting past

theorem reflects_begin : Reflects [] .fresh := by
  constructor
  case calls => rfl
  case failNextCall => exact fun reason => iff_of_false nofun nofun
  case failNextWrite => exact iff_of_false nofun nofun
  case folders => rfl

theorem reflects_reset (past : List Event) : Reflects (past ++ [.reset]) .fresh := by
  constructor
  case calls =>
    rw [sinceReset_concat_reset]
    rfl
  case failNextCall =>
    intro reason
    rw [latest?_concat_of_counted rfl]
    exact iff_of_false nofun nofun
  case failNextWrite =>
    rw [latest?_concat_of_counted rfl]
    exact iff_of_false nofun nofun
  case folders =>
    rw [waiting_concat]
    rfl

section Step

variable {past : List Event} {bridge : MemoryBridge}

theorem Reflects.calls_concat (reflects : Reflects past bridge) (event : Event)
    (kept : event.isReset = false) :
    (sinceReset (past ++ [event])).filterMap Event.operation? =
      bridge.calls ++ event.operation?.toList := by
  rw [sinceReset_concat kept, List.filterMap_append, ← reflects.calls]
  cases event <;> rfl

theorem Reflects.queueFolder (reflects : Reflects past bridge) (folder : Option String) :
    Reflects (past ++ [.queuedFolder folder]) (bridge.queueFolder folder) := by
  constructor
  case calls => exact ((reflects.calls_concat _ rfl).trans (List.append_nil _)).symm
  case failNextCall =>
    intro reason
    rw [latest?_concat_of_aside rfl]
    exact reflects.failNextCall reason
  case failNextWrite =>
    rw [latest?_concat_of_aside rfl]
    exact reflects.failNextWrite
  case folders =>
    rw [waiting_concat, ← reflects.folders]
    rfl

theorem Reflects.armWrite (reflects : Reflects past bridge) :
    Reflects (past ++ [.armedWrite]) bridge.armWrite := by
  constructor
  case calls => exact ((reflects.calls_concat _ rfl).trans (List.append_nil _)).symm
  case failNextCall =>
    intro reason
    rw [latest?_concat_of_aside rfl]
    exact reflects.failNextCall reason
  case failNextWrite =>
    rw [latest?_concat_of_counted rfl]
    exact iff_of_true rfl rfl
  case folders =>
    rw [waiting_concat]
    exact reflects.folders

theorem Reflects.armCall (reflects : Reflects past bridge) (reason : String) :
    Reflects (past ++ [.armedCall reason]) (bridge.armCall reason) := by
  constructor
  case calls => exact ((reflects.calls_concat _ rfl).trans (List.append_nil _)).symm
  case failNextCall =>
    intro other
    rw [latest?_concat_of_counted rfl]
    simp [MemoryBridge.armCall]
  case failNextWrite =>
    rw [latest?_concat_of_aside rfl]
    exact reflects.failNextWrite
  case folders =>
    rw [waiting_concat]
    exact reflects.folders

/-- A call that fails is noted and uses up its own switch. Any other call uses up what it is served
from. -/
theorem Reflects.perform (reflects : Reflects past bridge) (call : Call) :
    Reflects (past ++ [.called call (perform call bridge).1]) (perform call bridge).2 := by
  have performed := performs call bridge
  generalize (MemoryBridge.perform call bridge).1 = answer,
    (MemoryBridge.perform call bridge).2 = after at performed ⊢
  cases performed with
  | @failed reason armed =>
      constructor
      case calls => exact (reflects.calls_concat (.called call _) rfl).symm
      case failNextCall =>
        intro other
        rw [latest?_concat_of_counted rfl]
        exact iff_of_false nofun nofun
      case failNextWrite =>
        rw [latest?_concat_of_aside rfl]
        exact reflects.failNextWrite
      case folders =>
        rw [waiting_concat, ← reflects.folders]
        cases call <;> rfl
  | @served reply after working serves =>
      constructor
      case calls =>
        rw [serves.calls]
        exact (reflects.calls_concat (.called call _) rfl).symm
      case failNextCall =>
        intro other
        rw [latest?_concat_of_counted rfl, serves.failNextCall]
        exact iff_of_false (by simp [working]) nofun
      case failNextWrite =>
        rw [serves.failNextWrite]
        cases isWrite : call.isWrite with
        | true =>
            rw [latest?_concat_of_counted isWrite]
            exact iff_of_false (by simp) nofun
        | false =>
            rw [latest?_concat_of_aside isWrite, Bool.not_false, Bool.and_true]
            exact reflects.failNextWrite
      case folders => rw [waiting_concat, ← reflects.folders, serves.folders]

end Step

namespace Rehearsal

theorem reflects_next {rehearsal : Rehearsal} (reflects : Reflects rehearsal.past rehearsal.bridge)
    (cue : Cue) : Reflects (rehearsal.next cue).past (rehearsal.next cue).bridge := by
  cases cue with
  | call call => exact reflects.perform call
  | queueFolder folder => exact reflects.queueFolder folder
  | failNextWrite => exact reflects.armWrite
  | failNextCall reason => exact reflects.armCall reason
  | reset => exact reflects_reset rehearsal.past

theorem reflects_run {rehearsal : Rehearsal} (reflects : Reflects rehearsal.past rehearsal.bridge)
    (cues : List Cue) : Reflects (rehearsal.run cues).past (rehearsal.run cues).bridge := by
  induction cues generalizing rehearsal with
  | nil => exact reflects
  | cons cue cues ih => exact ih (reflects_next reflects cue)

theorem past_run (rehearsal : Rehearsal) (cues : List Cue) :
    (rehearsal.run cues).past.map Event.cue = rehearsal.past.map Event.cue ++ cues := by
  induction cues generalizing rehearsal with
  | nil => exact (List.append_nil _).symm
  | cons cue cues ih =>
      have noted : (rehearsal.next cue).past.map Event.cue =
          rehearsal.past.map Event.cue ++ [cue] := by
        cases cue <;> exact List.map_append
      exact (ih (rehearsal.next cue)).trans (by rw [noted, List.append_assoc]; rfl)

/-- What has happened to a bridge before counts only as far as the bridge tells of it. -/
theorem bridge_run_congr {left right : Rehearsal} (same : left.bridge = right.bridge)
    (cues : List Cue) : (left.run cues).bridge = (right.run cues).bridge := by
  induction cues generalizing left right with
  | nil => exact same
  | cons cue cues ih =>
      have next : (left.next cue).bridge = (right.next cue).bridge := by
        cases cue <;> simp only [Rehearsal.next, same]
      exact ih next

end Rehearsal

/-! ## Folders in turn -/

theorem exists_queueAfter {event : Event} (kept : event.isReset = false)
    (passes : event.takesFolder = false) (queue : List (Option String)) :
    ∃ more, event.queueAfter queue = queue ++ more := by
  cases event with
  | reset => cases kept
  | queuedFolder folder => exact ⟨[folder], rfl⟩
  | armedWrite => exact ⟨[], (List.append_nil _).symm⟩
  | armedCall reason => exact ⟨[], (List.append_nil _).symm⟩
  | called call answer =>
      refine ⟨[], Eq.trans ?_ (List.append_nil _).symm⟩
      cases call with
      | selectFolder =>
          cases answer with
          | error error => rfl
          | ok reply => cases passes
      | _ => rfl

theorem queueAfter_of_takesFolder {event : Event} (takes : event.takesFolder = true)
    (queue : List (Option String)) : event.queueAfter queue = queue.tail := by
  cases event with
  | called call answer =>
      cases call with
      | selectFolder =>
          cases answer with
          | error error => cases takes
          | ok reply => rfl
      | _ => cases takes
  | _ => cases takes

/-- As long as there are enough folders, those that are taken are the first ones. -/
theorem exists_foldl_queueAfter {events : List Event} {queue : List (Option String)}
    (kept : ∀ event ∈ events, event.isReset = false)
    (enough : events.countP Event.takesFolder ≤ queue.length) :
    ∃ more, events.foldl Event.queueAfter queue =
      queue.drop (events.countP Event.takesFolder) ++ more := by
  induction events generalizing queue with
  | nil => exact ⟨[], (List.append_nil _).symm⟩
  | cons event events ih =>
      obtain ⟨keptFirst, keptRest⟩ := List.forall_mem_cons.mp kept
      rw [List.foldl_cons]
      cases takes : event.takesFolder with
      | true =>
          rw [List.countP_cons_of_pos takes] at enough ⊢
          rw [queueAfter_of_takesFolder takes]
          have enoughRest : events.countP Event.takesFolder ≤ queue.tail.length := by
            rw [List.length_tail]
            omega
          obtain ⟨more, split⟩ := ih keptRest enoughRest
          exact ⟨more, by rw [split, List.drop_tail]⟩
      | false =>
          rw [List.countP_cons_of_neg (by simp [takes])] at enough ⊢
          obtain ⟨added, longer⟩ := exists_queueAfter keptFirst takes queue
          rw [longer]
          have enoughRest : events.countP Event.takesFolder ≤ (queue ++ added).length := by
            rw [List.length_append]
            omega
          obtain ⟨more, split⟩ := ih keptRest enoughRest
          rw [List.drop_append_of_le_length enough, List.append_assoc] at split
          exact ⟨added ++ more, split⟩

/-- A folder that is queued while some wait comes next once as many have been taken. -/
theorem head?_waiting {before after : List Event} {folder : Option String}
    (kept : ∀ event ∈ after, event.isReset = false)
    (turn : after.countP Event.takesFolder = (waiting before).length) :
    (waiting (before ++ .queuedFolder folder :: after)).head? = some folder := by
  have split : waiting (before ++ .queuedFolder folder :: after) =
      after.foldl Event.queueAfter (waiting before ++ [folder]) := by
    unfold waiting
    rw [List.foldl_append]
    rfl
  have enough : after.countP Event.takesFolder ≤ (waiting before ++ [folder]).length := by
    rw [List.length_append]
    omega
  obtain ⟨more, rest⟩ := exists_foldl_queueAfter kept enough
  rw [split, rest, turn, List.drop_left]
  rfl

theorem chosen_iff {queue : List (Option String)} {path : String} :
    (queue.head?.getD none).filter (!·.isEmpty) = some path ↔
      queue.head? = some (some path) ∧ path ≠ "" := by
  rcases queue.head? with _ | _ | folder
  · simp
  · simp
  · rw [Option.getD_some, Option.filter_eq_some_iff]
    constructor
    · rintro ⟨⟨⟩, nonempty⟩
      exact ⟨rfl, by simpa using nonempty⟩
    · rintro ⟨⟨⟩, nonempty⟩
      exact ⟨rfl, by simpa using nonempty⟩

/-! ## Scripts -/

/-- What a call that is made to fail leaves alone. -/
structure Spares (before after : MemoryBridge) : Prop where
  settings : after.settings = before.settings
  session : after.session = before.session
  folders : after.folders = before.folders
  failNextWrite : after.failNextWrite = before.failNextWrite

def Reserved (call : Call) : Prop :=
  ∃ key value, call = .saveSetting key value ∧ isReserved key = true

/-- What a write that takes effect leaves behind. -/
inductive Lands (before after : MemoryBridge) : Call → Prop where
  | savedSession {tokens : Json} {host : String} : after.session = some ⟨tokens, host⟩ →
      after.settings = before.settings → Lands before after (.saveSession tokens host)
  | clearedSession : after.session = none → after.settings = before.settings →
      Lands before after .clearSession
  | savedSetting {key : String} {value : Json} : after.session = before.session →
      after.settings = Members.insert key value before.settings →
      Lands before after (.saveSetting key value)

/-- What the next call on a bridge does, by what has happened to it since some cues were begun. -/
structure KeepsToScript (cues : List Cue) (rehearsal : Rehearsal) : Prop where
  recorded : rehearsal.past.map Event.cue = cues
  noted : rehearsal.bridge.calls = (sinceReset rehearsal.past).filterMap Event.operation?
  failed_iff : ∀ call error, (perform call rehearsal.bridge).1 = .error error ↔
    ∃ reason, latest? Event.rulesCalls rehearsal.past = some (.armedCall reason) ∧
      error = .host reason
  spared : ∀ call error, (perform call rehearsal.bridge).1 = .error error →
    Spares rehearsal.bridge (perform call rehearsal.bridge).2
  written : ∀ call reply, (perform call rehearsal.bridge).1 = .ok reply → call.isWrite = true →
    ∃ done, reply = .written done ∧ (done = false ↔
      latest? Event.rulesWrites rehearsal.past = some .armedWrite ∨ Reserved call)
  refused : ∀ call, (perform call rehearsal.bridge).1 = .ok (.written false) →
    (perform call rehearsal.bridge).2.settings = rehearsal.bridge.settings ∧
      (perform call rehearsal.bridge).2.session = rehearsal.bridge.session
  landed : ∀ call, (perform call rehearsal.bridge).1 = .ok (.written true) →
    Lands rehearsal.bridge (perform call rehearsal.bridge).2 call
  chosen : ∀ reply, (perform .selectFolder rehearsal.bridge).1 = .ok reply →
    ∃ folder, reply = .folder folder ∧ ∀ path, folder = some path ↔
      (waiting rehearsal.past).head? = some (some path) ∧ path ≠ ""
  inTurn : ∀ before folder after, rehearsal.past = before ++ .queuedFolder folder :: after →
    (∀ event ∈ after, event.isReset = false) →
    after.countP Event.takesFolder = (waiting before).length →
    ∀ reply, (perform .selectFolder rehearsal.bridge).1 = .ok reply →
      reply = .folder (folder.filter (!·.isEmpty))
  dropped : ∀ earlier later, cues = earlier ++ .reset :: later →
    rehearsal.bridge = (Rehearsal.begin.run later).bridge

section Performs

variable {bridge after : MemoryBridge} {call : Call} {answer : Answer} {reply : Reply}

theorem Performs.failed_iff (performs : Performs bridge call answer after) {error : BridgeError} :
    answer = .error error ↔ ∃ reason, bridge.failNextCall = some reason ∧ error = .host reason := by
  cases performs with
  | failed armed => simp [armed, eq_comm]
  | served working _ => simp [working]

theorem Performs.spares {error : BridgeError}
    (performs : Performs bridge call (.error error) after) : Spares bridge after := by
  cases performs with
  | failed _ => exact ⟨rfl, rfl, rfl, rfl⟩

theorem Performs.written (performs : Performs bridge call (.ok reply) after)
    (isWrite : call.isWrite = true) :
    ∃ done, reply = .written done ∧
      (done = false ↔ bridge.failNextWrite = true ∨ Reserved call) := by
  cases performs with
  | served _ serves =>
      cases serves with
      | folder => cases isWrite
      | session => cases isWrite
      | setting => cases isWrite
      | refused _ armed => exact ⟨false, rfl, iff_of_true rfl (.inl armed)⟩
      | reserved _ reserved => exact ⟨false, rfl, iff_of_true rfl (.inr ⟨_, _, rfl, reserved⟩)⟩
      | savedSession unarmed =>
          refine ⟨true, rfl, iff_of_false nofun ?_⟩
          rintro (armed | ⟨_, _, ⟨⟩, _⟩)
          cases unarmed.symm.trans armed
      | clearedSession unarmed =>
          refine ⟨true, rfl, iff_of_false nofun ?_⟩
          rintro (armed | ⟨_, _, ⟨⟩, _⟩)
          cases unarmed.symm.trans armed
      | savedSetting unarmed free =>
          refine ⟨true, rfl, iff_of_false nofun ?_⟩
          rintro (armed | ⟨_, _, ⟨⟩, reserved⟩)
          · cases unarmed.symm.trans armed
          · cases free.symm.trans reserved

theorem Performs.refuses (performs : Performs bridge call (.ok (.written false)) after) :
    after.settings = bridge.settings ∧ after.session = bridge.session := by
  cases performs with
  | served _ serves =>
      cases serves with
      | refused _ _ => exact ⟨rfl, rfl⟩
      | reserved _ _ => exact ⟨rfl, rfl⟩

theorem Performs.lands (performs : Performs bridge call (.ok (.written true)) after) :
    Lands bridge after call := by
  cases performs with
  | served _ serves =>
      cases serves with
      | savedSession _ => exact .savedSession rfl rfl
      | clearedSession _ => exact .clearedSession rfl rfl
      | savedSetting _ _ => exact .savedSetting rfl rfl

theorem Performs.chooses (performs : Performs bridge .selectFolder (.ok reply) after) :
    reply = .folder ((bridge.folders.head?.getD none).filter (!·.isEmpty)) := by
  cases performs with
  | served _ serves =>
      cases serves with
      | folder => rfl
      | refused isWrite _ => cases isWrite

theorem performs_of_answer (answered : (perform call bridge).1 = answer) :
    Performs bridge call answer (perform call bridge).2 :=
  answered ▸ performs call bridge

end Performs

/-- After any cues, a call does what is still due from them. -/
theorem run_keepsToScript (cues : List Cue) : KeepsToScript cues (Rehearsal.begin.run cues) := by
  have reflects : Reflects (Rehearsal.begin.run cues).past (Rehearsal.begin.run cues).bridge :=
    Rehearsal.reflects_run reflects_begin cues
  constructor
  case recorded => exact Rehearsal.past_run .begin cues
  case noted => exact reflects.calls
  case failed_iff =>
    intro call error
    rw [(performs call _).failed_iff]
    simp only [reflects.failNextCall]
  case spared => exact fun call error failed => (performs_of_answer failed).spares
  case written =>
    intro call reply answered isWrite
    rw [← reflects.failNextWrite]
    exact (performs_of_answer answered).written isWrite
  case refused => exact fun call answered => (performs_of_answer answered).refuses
  case landed => exact fun call answered => (performs_of_answer answered).lands
  case chosen =>
    intro reply answered
    refine ⟨_, (performs_of_answer answered).chooses, fun path => ?_⟩
    rw [reflects.folders]
    exact chosen_iff
  case inTurn =>
    intro before folder after past kept turn reply answered
    rw [(performs_of_answer answered).chooses, reflects.folders, past, head?_waiting kept turn,
      Option.getD_some]
  case dropped =>
    rintro earlier later rfl
    have split : Rehearsal.begin.run (earlier ++ .reset :: later) =
        ((Rehearsal.begin.run earlier).next .reset).run later := List.foldl_append
    have emptied : ((Rehearsal.begin.run earlier).next .reset).bridge = Rehearsal.begin.bridge := rfl
    rw [split]
    exact Rehearsal.bridge_run_congr emptied later

/-- A write that fails as a call leaves the switch for writes to the next one, and so does a look. -/
example :
    let cues : List Cue :=
      [.failNextWrite, .failNextCall "lost", .call .clearSession, .call .getSession]
    (perform .clearSession (Rehearsal.begin.run cues).bridge).1 = .ok (.written false) := by
  rfl

end MemoryBridge

end WebviewHost.Bridge
