import WebviewHost.Bridge.Memory
import WebviewHost.Proofs.Bridge.Calls
import WebviewHost.Proofs.Bridge.Invocation
import WebviewHost.Proofs.Files.Directories

/-!
# Rehearsals are faithful

The same invocations are made on a stored bridge in an unused data directory and on a fresh bridge in
memory. Both give the same answers, also when writes are made to fail: by the file system on one
side, by the switch on the other. Only what the defaults fill in is known to the stored bridge
alone.
-/

set_option autoImplicit false

namespace WebviewHost.Bridge

open WebviewHost.Files (Disk Faults)
open WebviewHost.Settings (SessionRecord Store StoreError isReserved sessionKey)

/-- An invocation, and what goes wrong with the disk in it if its write is to fail. -/
structure Trial where
  operation : String
  arguments : List Json
  failing : Option Faults

namespace Trial

def onStored (trial : Trial) (state : StoredBridge × Disk) :
    Except BridgeError Json × (StoredBridge × Disk) :=
  invoke (StoredBridge.perform (trial.failing.getD .none)) trial.operation trial.arguments state

def onMemory (trial : Trial) (memory : MemoryBridge) : Except BridgeError Json × MemoryBridge :=
  invoke MemoryBridge.perform trial.operation trial.arguments
    (if trial.failing.isSome then memory.armWrite else memory)

def Makes (trial : Trial) (call : Call) : Prop :=
  decodeCall trial.operation trial.arguments = .ok call

/-- If the write of a trial is to fail, there is one, and some action of the file system is refused
in it. -/
def Sound (trial : Trial) : Prop :=
  ∀ faults, trial.failing = some faults →
    (∃ step, faults.refused step ≠ none) ∧ 
      ∃ call, trial.Makes call ∧ call.change?.isSome = true

def Saves (trial : Trial) (key : String) : Prop :=
  trial.failing = none ∧ isReserved key = false ∧ ∃ value, trial.Makes (.saveSetting key value)

end Trial

def storedAnswers : List Trial → StoredBridge × Disk → List (Except BridgeError Json)
  | [], _ => []
  | trial :: rest, state =>
      let (answer, state) := trial.onStored state
      answer :: storedAnswers rest state

def memoryAnswers : List Trial → MemoryBridge → List (Except BridgeError Json)
  | [], _ => []
  | trial :: rest, memory =>
      let (answer, memory) := trial.onMemory memory
      answer :: memoryAnswers rest memory

/-- A setting that has a default is only asked for if it has been saved before. -/
def AsksForSaved (trials : List Trial) : Prop :=
  ∀ position trial key, trials[position]? = some trial → trial.Makes (.getSetting key) →
    Members.contains Settings.defaults key = true →
    ∃ earlier ∈ trials.take position, earlier.Saves key

/-- A data directory without a settings file, once it has been made. -/
def Unused (directory : String) (disk : Disk) : Prop :=
  ∃ made, disk.makeDirectories directory = .ok made ∧
    made.readFile (Files.joinPath directory Settings.settingsFile) = .error .notFound

/-- A stored bridge and one in memory that hold the same, the defaults apart. -/
structure Matches (directory : String) (bridge : StoredBridge) (disk : Disk)
    (memory : MemoryBridge) : Prop where
  isOpen : bridge.store.OpenIn directory
  writable : Store.Writable directory disk
  noPicker : bridge.picker = none
  settings : ∀ key, isReserved key = false → bridge.store.get? key =
    (memory.setting? key).or (Members.get? Settings.defaults key)
  session : bridge.sessionRecord = memory.session
  noFolders : memory.folders = []
  noFailingWrite : memory.failNextWrite = false
  noFailingCall : memory.failNextCall = none

section Step

variable {directory : String} {bridge : StoredBridge} {disk : Disk} {memory : MemoryBridge}

theorem Matches.persist_none (matching : Matches directory bridge disk memory) (key : String)
    (value : Json) :
    ∃ left, bridge.persist .none key value disk = (true, bridge.insert key value, left) ∧
      Store.Writable directory left := by
  obtain ⟨left, done, tree, _⟩ :=
    StoredBridge.persist_of_writable matching.isOpen matching.writable key value
  exact ⟨left, done, matching.writable.of_sameTree tree⟩

theorem Matches.persist_refused (matching : Matches directory bridge disk memory) {faults : Faults}
    (refused : ∃ step, faults.refused step ≠ none) (key : String) (value : Json) :
    ∃ left, bridge.persist faults key value disk = (false, bridge, left) ∧
      Store.Writable directory left := by
  obtain ⟨step, isRefused⟩ := refused
  obtain ⟨cause, refused⟩ := Option.ne_none_iff_exists'.mp isRefused
  obtain ⟨error, left, failed, tree⟩ := matching.isOpen.set_of_refused refused key value disk
  refine ⟨left, ?_, matching.writable.of_sameTree tree⟩
  unfold StoredBridge.persist
  rw [failed]

theorem Matches.record (matching : Matches directory bridge disk memory) (calls : List String) :
    Matches directory bridge disk { memory with calls } := by
  constructor
  case isOpen => exact matching.isOpen
  case writable => exact matching.writable
  case noPicker => exact matching.noPicker
  case settings => exact matching.settings
  case session => exact matching.session
  case noFolders => exact matching.noFolders
  case noFailingWrite => exact matching.noFailingWrite
  case noFailingCall => exact matching.noFailingCall

theorem Matches.move (matching : Matches directory bridge disk memory) {left : Disk}
    (writable : Store.Writable directory left) : Matches directory bridge left memory := by
  obtain ⟨isOpen, _, noPicker, settings, session, noFolders, noFailingWrite, noFailingCall⟩ := matching
  exact ⟨isOpen, writable, noPicker, settings, session, noFolders, noFailingWrite, noFailingCall⟩

theorem Matches.insert_session (matching : Matches directory bridge disk memory) (stored : Json) :
    Matches directory (bridge.insert sessionKey stored) disk
      { memory with session := SessionRecord.ofStored? stored } := by
  constructor
  case isOpen => exact matching.isOpen.insert sessionKey stored
  case writable => exact matching.writable
  case noPicker => exact matching.noPicker
  case settings =>
    intro key free
    have apart : key ≠ sessionKey := by
      intro same
      simp [isReserved, same] at free
    rw [StoredBridge.get?_insert, if_neg apart]
    exact matching.settings key free
  case session =>
    unfold StoredBridge.sessionRecord
    rw [StoredBridge.get?_insert, if_pos rfl]
    rfl
  case noFolders => exact matching.noFolders
  case noFailingWrite => exact matching.noFailingWrite
  case noFailingCall => exact matching.noFailingCall

theorem Matches.insert_setting (matching : Matches directory bridge disk memory) {key : String}
    (free : isReserved key = false) (value : Json) :
    Matches directory (bridge.insert key value) disk
      { memory with settings := Members.insert key value memory.settings } := by
  constructor
  case isOpen => exact matching.isOpen.insert key value
  case writable => exact matching.writable
  case noPicker => exact matching.noPicker
  case settings =>
    intro other otherFree
    rw [StoredBridge.get?_insert, matching.settings other otherFree]
    unfold MemoryBridge.setting?
    rw [Members.get?_insert]
    by_cases same : other = key <;> simp [same]
  case session =>
    have apart : sessionKey ≠ key := by
      intro same
      simp [isReserved, same] at free
    rw [← matching.session]
    unfold StoredBridge.sessionRecord
    rw [StoredBridge.get?_insert, if_neg apart]
  case noFolders => exact matching.noFolders
  case noFailingWrite => exact matching.noFailingWrite
  case noFailingCall => exact matching.noFailingCall

/-- A write that is made to fail is answered by both sides alike and changes neither. -/
theorem MemoryBridge.perform_armWrite {call : Call} (changes : call.change?.isSome = true)
    (noFailingWrite : memory.failNextWrite = false) (noFailingCall : memory.failNextCall = none) :
    MemoryBridge.perform call memory.armWrite =
      (.ok (.written false), { memory with calls := memory.calls ++ [call.name] }) := by
  cases call with
  | selectFolder => cases changes
  | getSession => cases changes
  | getSetting key => cases changes
  | saveSession tokens host =>
      simp [perform, armWrite, serve, write, noFailingCall, noFailingWrite]
  | clearSession => simp [perform, armWrite, serve, write, noFailingCall, noFailingWrite]
  | saveSetting key value =>
      have free : isReserved key = false := by simpa [Call.change?] using changes
      simp [perform, armWrite, serve, write, noFailingCall, noFailingWrite, free]

theorem Matches.perform_failing (matching : Matches directory bridge disk memory) {call : Call}
    (changes : call.change?.isSome = true) {faults : Faults}
    (refused : ∃ step, faults.refused step ≠ none) :
    let stored := StoredBridge.perform faults call (bridge, disk)
    let rehearsed := MemoryBridge.perform call memory.armWrite
    stored.1 = rehearsed.1 ∧ Matches directory stored.2.1 stored.2.2 rehearsed.2 := by
  obtain ⟨⟨key, value⟩, change⟩ := Option.isSome_iff_exists.mp changes
  obtain ⟨left, failed, writable⟩ := matching.persist_refused refused key value
  dsimp only
  rw [StoredBridge.perform_of_change change, failed,
    MemoryBridge.perform_armWrite changes matching.noFailingWrite matching.noFailingCall]
  exact ⟨rfl, (matching.move writable).record _⟩

theorem not_reserved_of_no_default {key : String}
    (default : Members.get? Settings.defaults key = none) : isReserved key = false := by
  cases reserved : isReserved key with
  | false => rfl
  | true =>
      have same : key = sessionKey := by simpa [isReserved] using reserved
      rw [same] at default
      cases default

/-- A call of which nothing is made to fail is answered by both sides alike, and takes them to
states that match. -/
theorem Matches.perform_working (matching : Matches directory bridge disk memory) (call : Call)
    (asked : ∀ key, call = .getSetting key → Members.contains Settings.defaults key = true →
      isReserved key = false ∧ (memory.setting? key).isSome = true) :
    let stored := StoredBridge.perform .none call (bridge, disk)
    let rehearsed := MemoryBridge.perform call memory
    stored.1 = rehearsed.1 ∧ Matches directory stored.2.1 stored.2.2 rehearsed.2 := by
  have entered := matching.record (memory.calls ++ [call.name])
  have served : MemoryBridge.perform call memory =
      MemoryBridge.serve call { memory with calls := memory.calls ++ [call.name] } := by
    simp only [MemoryBridge.perform, matching.noFailingCall]
  have written (change : MemoryBridge → MemoryBridge) :
      MemoryBridge.write { memory with calls := memory.calls ++ [call.name] } change =
        (.ok (.written true), change { memory with calls := memory.calls ++ [call.name] }) := by
    simp [MemoryBridge.write, matching.noFailingWrite]
  dsimp only
  rw [served]
  cases call with
  | selectFolder =>
      have cancelled : MemoryBridge.serve .selectFolder
          { memory with calls := memory.calls ++ [Call.selectFolder.name] } =
            (.ok (.folder none), { memory with calls := memory.calls ++ [Call.selectFolder.name] }) := by
        simp [MemoryBridge.serve, matching.noFolders]
      rw [cancelled]
      simp only [StoredBridge.perform, StoredBridge.selectFolder, matching.noPicker]
      exact ⟨rfl, entered⟩
  | getSession =>
      simp only [StoredBridge.perform, MemoryBridge.serve, matching.session]
      exact ⟨trivial, entered⟩
  | getSetting key =>
      refine ⟨?_, entered⟩
      have same : bridge.store.get? key = memory.setting? key := by
        cases default : Members.get? Settings.defaults key with
        | none =>
            have free : isReserved key = false := not_reserved_of_no_default default
            rw [matching.settings key free, default, Option.or_none]
        | some value =>
            have filled : Members.contains Settings.defaults key = true := by
              simp [Members.contains, default]
            obtain ⟨free, saved⟩ := asked key rfl filled
            rw [matching.settings key free, Option.or_of_isSome saved]
      exact congrArg (fun found => Except.ok (Reply.value found)) same
  | saveSession tokens host =>
      obtain ⟨left, done, writable⟩ := matching.persist_none sessionKey
        (SessionRecord.toStored ⟨tokens, host⟩)
      rw [StoredBridge.perform_of_change rfl, done]
      simp only [MemoryBridge.serve, written]
      exact ⟨trivial, (entered.move writable).insert_session (SessionRecord.toStored ⟨tokens, host⟩)⟩
  | clearSession =>
      obtain ⟨left, done, writable⟩ := matching.persist_none sessionKey .null
      rw [StoredBridge.perform_of_change rfl, done]
      simp only [MemoryBridge.serve, written]
      exact ⟨trivial, (entered.move writable).insert_session .null⟩
  | saveSetting key value =>
      cases free : isReserved key with
      | true =>
          have refused : MemoryBridge.serve (.saveSetting key value)
              { memory with calls := memory.calls ++ [(Call.saveSetting key value).name] } =
                (.ok (.written false),
                  { memory with calls := memory.calls ++ [(Call.saveSetting key value).name] }) := by
            simp [MemoryBridge.serve, free, matching.noFailingWrite]
          rw [refused]
          simp only [StoredBridge.perform, free, if_true]
          exact ⟨trivial, entered⟩
      | false =>
          obtain ⟨left, done, writable⟩ := matching.persist_none key value
          rw [StoredBridge.perform_of_change (Call.change?_saveSetting free value), done]
          simp only [MemoryBridge.serve, free, Bool.false_eq_true, if_false, written]
          exact ⟨trivial, (entered.move writable).insert_setting free value⟩

theorem MemoryBridge.setting?_perform {key : String} (held : (memory.setting? key).isSome = true)
    (call : Call) : ((MemoryBridge.perform call memory).2.setting? key).isSome = true := by
  have write (entered : MemoryBridge) (change : MemoryBridge → MemoryBridge)
      (before : (entered.setting? key).isSome = true)
      (keeps : ((change entered).setting? key).isSome = true) :
      ((entered.write change).2.setting? key).isSome = true := by
    unfold MemoryBridge.write
    split
    · exact before
    · exact keeps
  unfold MemoryBridge.perform
  dsimp only
  split
  · exact held
  · cases call with
    | selectFolder => exact held
    | getSession => exact held
    | getSetting other => exact held
    | saveSession tokens host => exact write _ _ held held
    | clearSession => exact write _ _ held held
    | saveSetting other value =>
        simp only [MemoryBridge.serve]
        split
        · exact held
        · refine write _ _ held ?_
          unfold MemoryBridge.setting? at held ⊢
          rw [Members.get?_insert]
          split
          · rfl
          · exact held

theorem Matches.setting?_saved (matching : Matches directory bridge disk memory) {key : String}
    (free : isReserved key = false) (value : Json) :
    ((MemoryBridge.perform (.saveSetting key value) memory).2.setting? key).isSome = true := by
  simp [MemoryBridge.perform, matching.noFailingCall, MemoryBridge.serve, free, MemoryBridge.write,
    matching.noFailingWrite, MemoryBridge.setting?, Members.get?_insert]

theorem Matches.trial (matching : Matches directory bridge disk memory) {trial : Trial}
    (sound : trial.Sound)
    (asked : ∀ key, trial.Makes (.getSetting key) →
      Members.contains Settings.defaults key = true →
        isReserved key = false ∧ (memory.setting? key).isSome = true) :
    let stored := trial.onStored (bridge, disk)
    let rehearsed := trial.onMemory memory
    stored.1 = rehearsed.1 ∧ Matches directory stored.2.1 stored.2.2 rehearsed.2 ∧
      ∀ key, (memory.setting? key).isSome = true ∨ trial.Saves key →
        (rehearsed.2.setting? key).isSome = true := by
  obtain ⟨operation, arguments, failing⟩ := trial
  unfold Trial.onStored Trial.onMemory
  dsimp only
  cases failing with
  | some faults =>
      obtain ⟨refused, call, decoded, changes⟩ := sound faults rfl
      obtain ⟨sameAnswer, after⟩ := matching.perform_failing changes refused
      rw [invoke_of_ok decoded, invoke_of_ok decoded]
      refine ⟨congrArg (Except.map Reply.toJson) sameAnswer, after, ?_⟩
      intro key known
      rcases known with held | ⟨working, _⟩
      · have armed : (memory.armWrite.setting? key).isSome = true := held
        exact MemoryBridge.setting?_perform armed call
      · cases working
  | none =>
      cases decoded : decodeCall operation arguments with
      | error error =>
          rw [invoke_of_error decoded, invoke_of_error decoded]
          refine ⟨rfl, matching, ?_⟩
          intro key known
          rcases known with held | ⟨_, _, value, saves⟩
          · exact held
          · cases decoded.symm.trans saves
      | ok call =>
          have askedCall : ∀ key, call = .getSetting key →
              Members.contains Settings.defaults key = true →
                isReserved key = false ∧ (memory.setting? key).isSome = true := by
            intro key same
            exact asked key (same ▸ decoded)
          obtain ⟨sameAnswer, after⟩ := matching.perform_working call askedCall
          rw [invoke_of_ok decoded, invoke_of_ok decoded]
          refine ⟨congrArg (Except.map Reply.toJson) sameAnswer, after, ?_⟩
          intro key known
          rcases known with held | ⟨_, free, value, saves⟩
          · exact MemoryBridge.setting?_perform held call
          · cases decoded.symm.trans saves
            exact matching.setting?_saved free value

theorem Matches.answers_eq (matching : Matches directory bridge disk memory)
    {before trials : List Trial} (sound : ∀ trial ∈ trials, trial.Sound)
    (asks : AsksForSaved (before ++ trials))
    (saved : ∀ earlier ∈ before, ∀ key, earlier.Saves key → (memory.setting? key).isSome = true) :
    storedAnswers trials (bridge, disk) = memoryAnswers trials memory := by
  -- What was saved before is a setting in memory, so a setting with a default is found there.
  induction trials generalizing before bridge disk memory with
  | nil => rfl
  | cons trial rest ih =>
      have here : (before ++ trial :: rest)[before.length]? = some trial := by simp
      have asked : ∀ key, trial.Makes (.getSetting key) →
          Members.contains Settings.defaults key = true →
            isReserved key = false ∧ (memory.setting? key).isSome = true := by
        intro key makes filled
        obtain ⟨earlier, member, saves⟩ := asks before.length trial key here makes filled
        rw [List.take_left] at member
        exact ⟨saves.2.1, saved earlier member key saves⟩
      obtain ⟨sameAnswer, after, kept⟩ := matching.trial (sound trial List.mem_cons_self) asked
      have soundRest : ∀ later ∈ rest, later.Sound := by
        intro later member
        exact sound later (List.mem_cons_of_mem _ member)
      have asksRest : AsksForSaved (before ++ [trial] ++ rest) := by
        rwa [List.append_assoc, List.singleton_append]
      have savedRest : ∀ earlier ∈ before ++ [trial], ∀ key, earlier.Saves key →
          ((trial.onMemory memory).2.setting? key).isSome = true := by
        intro earlier member key saves
        apply kept
        rcases List.mem_append.mp member with old | new
        · exact .inl (saved earlier old key saves)
        · exact .inr (List.mem_singleton.mp new ▸ saves)
      exact congr (congrArg _ sameAnswer) (ih after soundRest asksRest savedRest)

end Step

theorem matches_of_openIn {faults : Faults} {directory : String} {disk opened : Disk}
    {bridge : StoredBridge} (unused : Unused directory disk)
    (isOpen : StoredBridge.openIn faults directory disk = (.ok bridge, opened)) :
    Matches directory bridge opened .fresh := by
  obtain ⟨made, prepared, absent⟩ := unused
  obtain ⟨store, picker⟩ := bridge
  obtain ⟨opening, noPicker⟩ := StoredBridge.openIn_eq_ok isOpen
  have stored := Store.openIn_of_openIn opening
  have same : ∀ {middle : Disk}, disk.tryDirectories faults.unmade directory = (.ok (), middle) →
      middle = made := by
    intro middle tried
    have alone := Disk.makeDirectories_of_tryDirectories tried
    rw [prepared] at alone
    exact (Except.ok.inj alone).symm
  have course := Store.opening_openIn faults directory disk
  rw [opening] at course
  cases course with
  | loaded tried read =>
      have held := (Files.Disk.tryReadFile_eq_ok_iff.mp read).2
      rw [same tried, absent] at held
      cases held
  | created tried _ done =>
      constructor
      case isOpen => exact stored
      case writable => exact Store.writable_of_run done
      case noPicker => exact noPicker
      case settings =>
        intro key _
        rfl
      case session => rfl
      case noFolders => rfl
      case noFailingWrite => rfl
      case noFailingCall => rfl

/-- Where nothing is in the way of a settings file that is not there yet, a bridge can be opened. -/
theorem openIn_of_unused {directory : String} {disk made : Disk}
    (prepared : disk.makeDirectories directory = .ok made)
    (absent : made.readFile (Files.joinPath directory Settings.settingsFile) = .error .notFound)
    (writable : Store.Writable directory made) :
    ∃ bridge opened, StoredBridge.openIn .none directory disk = (.ok bridge, opened) := by
  have quiet := Store.run_of_writable writable (Settings.fileText Settings.defaults)
    (show ∀ step, Faults.none.refused step = none from fun _ => rfl)
  have saved : Store.save .none (Files.joinPath directory Settings.settingsFile) Settings.defaults
      made = (.ok (), (Files.Replacement.run ⟨Files.joinPath directory Settings.settingsFile,
        Settings.fileText Settings.defaults⟩ .none made).final) := by
    unfold Store.save
    simp only [quiet]
  have tried : disk.tryDirectories Faults.none.unmade directory = (.ok (), made) :=
    Disk.makeDirectories_eq_ok_iff.mp prepared
  have asked : made.tryReadFile Faults.none.unread (Files.joinPath directory Settings.settingsFile) =
      .error .notFound := Files.Disk.tryReadFile_eq_notFound_iff.mpr (.inr ⟨rfl, absent⟩)
  unfold StoredBridge.openIn Store.openIn
  simp only [tried, asked, saved]
  exact ⟨_, _, rfl⟩

/-- A fresh bridge in memory answers every sequence of invocations as a stored one that was opened in
an unused directory. -/
theorem memoryAnswers_eq_storedAnswers {faults : Faults} {directory : String} {disk opened : Disk}
    {bridge : StoredBridge} (unused : Unused directory disk)
    (isOpen : StoredBridge.openIn faults directory disk = (.ok bridge, opened))
    (trials : List Trial) (sound : ∀ trial ∈ trials, trial.Sound) (asks : AsksForSaved trials) :
    memoryAnswers trials .fresh = storedAnswers trials (bridge, opened) := by
  have matching := matches_of_openIn unused isOpen
  have noneBefore : ∀ earlier ∈ ([] : List Trial), ∀ key, earlier.Saves key →
      (MemoryBridge.fresh.setting? key).isSome = true := by
    intro earlier member
    cases member
  have asksAll : AsksForSaved ([] ++ trials) := asks
  exact (matching.answers_eq sound asksAll noneBefore).symm

def emptyDisk : Disk := ⟨[(["data"], .directory 0o755)], 0o022, "/"⟩

/-- A folder is remembered and asked for, and a session cannot be saved, among invocations that are
refused. -/
def sampleTrials : List Trial := [
  ⟨"open_window", [], none⟩,
  ⟨"save_setting", [.string "last_directory", .string "/shots"], none⟩,
  ⟨"get_setting", [.string "last_directory"], none⟩,
  ⟨"save_session", [.bool true, .string "host"], some (.at .fill .noSpaceLeft)⟩,
  ⟨"save_setting", [.string "session", .null], none⟩,
  ⟨"get_session", [.null], none⟩,
  ⟨"get_session", [], none⟩]

theorem unused_emptyDisk : Unused "/data" emptyDisk := ⟨emptyDisk, rfl, rfl⟩

theorem sound_sampleTrials : ∀ trial ∈ sampleTrials, trial.Sound := by
  intro trial member faults failing
  simp only [sampleTrials, List.mem_cons, List.not_mem_nil, or_false] at member
  rcases member with rfl | rfl | rfl | rfl | rfl | rfl | rfl <;> cases failing
  exact ⟨⟨.fill, Option.some_ne_none _⟩, .saveSession (.bool true) "host", rfl, rfl⟩

theorem asksForSaved_sampleTrials : AsksForSaved sampleTrials := by
  intro position trial key here makes filled
  have known : position < sampleTrials.length := (List.getElem?_eq_some_iff.mp here).1
  have third : position = 2 := by
    match position, known with
    | 0, _ => cases here; cases makes
    | 1, _ => cases here; cases makes
    | 2, _ => rfl
    | 3, _ => cases here; cases makes
    | 4, _ => cases here; cases makes
    | 5, _ => cases here; cases makes
    | 6, _ => cases here; cases makes
  subst third
  cases here
  cases makes
  refine ⟨⟨"save_setting", [.string "last_directory", .string "/shots"], none⟩, ?_, rfl, rfl, _, rfl⟩
  exact List.mem_cons_of_mem _ List.mem_cons_self

theorem memoryAnswers_eq_storedAnswers_sample :
    ∃ bridge opened, StoredBridge.openIn .none "/data" emptyDisk = (.ok bridge, opened) ∧
      memoryAnswers sampleTrials .fresh = storedAnswers sampleTrials (bridge, opened) := by
  have writable : Store.Writable "/data" emptyDisk :=
    ⟨⟨["data", "config.json.tmp"], rfl, rfl⟩, ⟨["data", "config.json"], rfl, rfl⟩⟩
  have opens : ∃ bridge opened, StoredBridge.openIn .none "/data" emptyDisk = (.ok bridge, opened) :=
    openIn_of_unused rfl rfl writable
  obtain ⟨bridge, opened, isOpen⟩ := opens
  exact ⟨bridge, opened, isOpen, memoryAnswers_eq_storedAnswers unused_emptyDisk isOpen sampleTrials
    sound_sampleTrials asksForSaved_sampleTrials⟩

end WebviewHost.Bridge
