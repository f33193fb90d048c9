import WebviewHost.Proofs.Bridge.Calls
import WebviewHost.Proofs.Bridge.Reference
import WebviewHost.Proofs.Settings.History

/-!
# A stored bridge refines the reference machine

Whatever is asked of a bridge, whichever writes fail, whatever pickers answer and whatever others do
to the file system: its responses are those of the reference machine that starts with the loaded
document. Settings and the session share that document under one reserved key, and no request lets
one reach into the other.
-/

set_option autoImplicit false

namespace WebviewHost.Bridge

open WebviewHost.Files (Disk Faults)
open WebviewHost.Settings (SessionRecord Store StoreError isReserved lastDirectoryKey sessionKey)

namespace StoredBridge

def respond (faults : Faults) (request : Request) (state : StoredBridge × Disk) :
    Response × (StoredBridge × Disk) :=
  match request with
  | .call call =>
      let (answer, state) := perform faults call state
      (.answer answer, state)
  | .sessionRecord => (.record state.1.sessionRecord, state)

def selection (disk : Disk) : Pick → Except BridgeError (Option String)
  | .error error => .error (.host error.message)
  | .ok none | .ok (some []) => .ok none
  | .ok (some path) =>
      match selectionText disk path with
      | .error cause => .error (.host cause.message)
      | .ok folder => .ok (some folder)

/-- What the outside world does to a request made now. -/
def circumstances (faults : Faults) (state : StoredBridge × Disk) : Circumstances where
  lands key value := state.1.lands faults key value state.2
  ask := state.1.picker.map fun picker start => selection state.2 (picker.ask state.2 start).1

/-- What can happen to a bridge: a request during which some things go wrong, another picker, or
others changing the file system. -/
inductive Event where
  | request (faults : Faults) (request : Request)
  | attach (picker : Picker)
  | outside (meddle : Disk → Disk)

/-- A bridge, the file system, and what has been asked and answered so far. -/
structure History where
  state : StoredBridge × Disk
  exchanges : List Exchange

namespace History

def next (history : History) : Event → History
  | .request faults request =>
      let (response, state) := respond faults request history.state
      ⟨state, history.exchanges ++ [⟨circumstances faults history.state, request, response⟩]⟩
  | .attach picker => { history with state := (history.state.1.attach picker, history.state.2) }
  | .outside meddle => { history with state := (history.state.1, meddle history.state.2) }

def run (history : History) (events : List Event) : History := events.foldl next history

end History

/-! ## One request -/

/-- A bridge and a state of the reference machine that hold the same. -/
structure Simulates (directory : String) (bridge : StoredBridge) (reference : Reference) :
    Prop where
  isOpen : bridge.store.OpenIn directory
  settings : ∀ key, isReserved key = false →
    bridge.store.get? key = reference.settings key
  slot : bridge.store.get? sessionKey = some reference.slot

section Step

variable {directory : String} {bridge : StoredBridge} {reference : Reference}

theorem simulates_ofDocument (isOpen : bridge.store.OpenIn directory) :
    Simulates directory bridge (.ofDocument bridge.store.document) := by
  refine ⟨isOpen, fun key free => ?_, ?_⟩
  · simp [Reference.ofDocument, free, Store.get?]
  · have present := isOpen.loaded.complete sessionKey (by decide)
    obtain ⟨value, held⟩ := Option.isSome_iff_exists.mp present
    simp [Reference.ofDocument, Store.get?, held, Json.ofOption]

theorem Simulates.persist_setting (simulates : Simulates directory bridge reference)
    (faults : Faults) {key : String} (free : isReserved key = false) (value : Json) (disk : Disk) :
    Simulates directory (bridge.persist faults key value disk).2.1
      (.settle (bridge.lands faults key value disk) (reference.put key value) reference) := by
  rw [← fst_persist]
  rcases persist_cases simulates.isOpen faults key value disk with
    ⟨left, landed, _⟩ | ⟨left, failed, _⟩
  · have apart : sessionKey ≠ key := fun same => by simp [isReserved, same] at free
    rw [landed]
    refine ⟨simulates.isOpen.insert key value, fun other notReserved => ?_, ?_⟩
    · show Members.get? (Members.insert key value bridge.store.document) other =
        if other = key then some value else reference.settings other
      rw [Members.get?_insert, ← simulates.settings other notReserved]
      rfl
    · show Members.get? (Members.insert key value bridge.store.document) sessionKey =
        some reference.slot
      rw [Members.get?_insert, if_neg apart]
      exact simulates.slot
  · rw [failed]
    exact simulates

theorem Simulates.persist_session (simulates : Simulates directory bridge reference)
    (faults : Faults) (value : Json) (disk : Disk) :
    Simulates directory (bridge.persist faults sessionKey value disk).2.1
      (.settle (bridge.lands faults sessionKey value disk) { reference with slot := value }
        reference) := by
  rw [← fst_persist]
  rcases persist_cases simulates.isOpen faults sessionKey value disk with
    ⟨left, landed, _⟩ | ⟨left, failed, _⟩
  · rw [landed]
    refine ⟨simulates.isOpen.insert sessionKey value, fun other notReserved => ?_, ?_⟩
    · have apart : other ≠ sessionKey := fun same => by simp [isReserved, same] at notReserved
      show Members.get? (Members.insert sessionKey value bridge.store.document) other =
        reference.settings other
      rw [Members.get?_insert, if_neg apart]
      exact simulates.settings other notReserved
    · show Members.get? (Members.insert sessionKey value bridge.store.document) sessionKey =
        some value
      rw [Members.get?_insert, if_pos rfl]
  · rw [failed]
    exact simulates

theorem readSlot_eq_ofStored? (stored : Json) :
    Reference.readSlot stored = SessionRecord.ofStored? stored := by
  cases stored with
  | object members =>
      simp only [Reference.readSlot, SessionRecord.ofStored?, Json.member?]
      cases Members.get? members "tokens" with
      | none => rfl
      | some tokens =>
          cases Members.get? members "host" with
          | none => rfl
          | some host => cases host <;> rfl
  | _ => rfl

theorem Simulates.sessionRecord_eq (simulates : Simulates directory bridge reference) :
    bridge.sessionRecord = Reference.readSlot reference.slot := by
  rw [readSlot_eq_ofStored?, sessionRecord, simulates.slot]
  rfl

theorem Simulates.startDirectory_eq (simulates : Simulates directory bridge reference) :
    bridge.startDirectory = reference.startDirectory := by
  unfold startDirectory Reference.startDirectory
  rw [simulates.settings lastDirectoryKey (by decide)]
  split <;> simp_all

theorem Simulates.attach (simulates : Simulates directory bridge reference) (picker : Picker) :
    Simulates directory (bridge.attach picker) reference :=
  ⟨simulates.isOpen, simulates.settings, simulates.slot⟩

/-- Choosing a folder: both sides start the dialog at the same place, and a chosen folder is
remembered by both or by neither. -/
theorem Simulates.selectFolder (simulates : Simulates directory bridge reference) (faults : Faults)
    (disk : Disk) :
    (reference.perform (circumstances faults (bridge, disk)) .selectFolder).1 =
        (StoredBridge.perform faults .selectFolder (bridge, disk)).1 ∧
      Simulates directory (StoredBridge.perform faults .selectFolder (bridge, disk)).2.1
        (reference.perform (circumstances faults (bridge, disk)) .selectFolder).2 := by
  simp only [StoredBridge.perform, Reference.perform, circumstances, StoredBridge.selectFolder]
  cases attached : bridge.picker with
  | none => exact ⟨rfl, simulates⟩
  | some picker =>
      simp only [Option.map_some, simulates.startDirectory_eq]
      rcases asked : picker.ask disk reference.startDirectory with ⟨pick, later⟩
      have attachedLater := simulates.attach later
      cases pick with
      | error error => exact ⟨rfl, attachedLater⟩
      | ok chosen =>
          rcases chosen with _ | _ | ⟨byte, path⟩
          · exact ⟨rfl, attachedLater⟩
          · exact ⟨rfl, attachedLater⟩
          · have free : isReserved lastDirectoryKey = false := by decide
            simp only [selection, finishSelection]
            cases selectionText disk (byte :: path) with
            | error cause => exact ⟨rfl, attachedLater⟩
            | ok folder =>
                exact ⟨rfl, attachedLater.persist_setting faults free (.string folder) disk⟩

/-- The reference machine responds as the bridge does, and goes along with it. -/
theorem Simulates.respond (simulates : Simulates directory bridge reference) (faults : Faults)
    (request : Request) (disk : Disk) :
    (reference.respond (circumstances faults (bridge, disk)) request).1 =
        (StoredBridge.respond faults request (bridge, disk)).1 ∧
      Simulates directory (StoredBridge.respond faults request (bridge, disk)).2.1
        (reference.respond (circumstances faults (bridge, disk)) request).2 := by
  cases request with
  | sessionRecord => exact ⟨congrArg Response.record simulates.sessionRecord_eq.symm, simulates⟩
  | call call =>
      cases call with
      | selectFolder =>
          have chosen := simulates.selectFolder faults disk
          exact ⟨congrArg Response.answer chosen.1, chosen.2⟩
      | saveSession tokens host =>
          refine ⟨?_, simulates.persist_session faults (SessionRecord.toStored ⟨tokens, host⟩) disk⟩
          simp only [Reference.respond, Reference.perform, StoredBridge.respond,
            StoredBridge.perform, circumstances, fst_persist]
      | getSession =>
          refine ⟨?_, simulates⟩
          simp only [Reference.respond, Reference.perform, StoredBridge.respond,
            StoredBridge.perform, simulates.sessionRecord_eq]
      | clearSession =>
          refine ⟨?_, simulates.persist_session faults .null disk⟩
          simp only [Reference.respond, Reference.perform, StoredBridge.respond,
            StoredBridge.perform, circumstances, fst_persist]
      | saveSetting key value =>
          simp only [Reference.respond, Reference.perform, StoredBridge.respond,
            StoredBridge.perform]
          cases free : isReserved key with
          | true => exact ⟨rfl, simulates⟩
          | false =>
              refine ⟨?_, simulates.persist_setting faults free value disk⟩
              simp only [Bool.false_eq_true, if_false, circumstances, fst_persist]
      | getSetting key =>
          refine ⟨?_, simulates⟩
          simp only [Reference.respond, Reference.perform, StoredBridge.respond,
            StoredBridge.perform]
          cases free : isReserved key with
          | true =>
              have same : key = sessionKey := by simpa [isReserved] using free
              simp [same, simulates.slot]
          | false => simp [simulates.settings key free]

end Step

/-! ## Whole histories -/

namespace History

/-- A history that begins with a bridge and no exchange. -/
def begin (bridge : StoredBridge) (disk : Disk) : History := ⟨(bridge, disk), []⟩

/-- The session that a bridge has to know of after some exchanges. -/
def currentSession (loaded : Members) (exchanges : List Exchange) : Option SessionRecord :=
  (lastSession? exchanges).getD
    (Reference.readSlot (.ofOption (Members.get? loaded sessionKey)))

def currentSlot (loaded : Members) (exchanges : List Exchange) : Json :=
  ((lastSession? exchanges).map slotOf).getD (.ofOption (Members.get? loaded sessionKey))

/-- The bridge of a history is simulated by the reference machine, which responds as it did, and
both are told by the last writes. -/
structure Follows (directory : String) (loaded : Members) (history : History) : Prop where
  simulates : Simulates directory history.state.1
    ((Reference.ofDocument loaded).after history.exchanges)
  responses : (Reference.ofDocument loaded).responses history.exchanges =
    history.exchanges.map (·.response)
  settings : ∀ key, isReserved key = false →
    ((Reference.ofDocument loaded).after history.exchanges).settings key =
      (lastSaved? key history.exchanges).or (Members.get? loaded key)
  slot : ((Reference.ofDocument loaded).after history.exchanges).slot =
    currentSlot loaded history.exchanges

section Runs

variable {directory : String} {loaded : Members} {history : History}

theorem Follows.next (follows : Follows directory loaded history) (event : Event) :
    Follows directory loaded (history.next event) := by
  cases event with
  | attach picker =>
      exact ⟨follows.simulates.attach picker, follows.responses, follows.settings, follows.slot⟩
  | outside meddle =>
      exact ⟨follows.simulates, follows.responses, follows.settings, follows.slot⟩
  | request faults request =>
      -- One simulation step; what the exchange records is what the reference machine answered.
      have step := follows.simulates.respond faults request history.state.2
      refine ⟨?_, ?_, fun key free => ?_, ?_⟩
      · simp only [History.next]
        rw [Reference.after_append]
        exact step.2
      · simp only [History.next]
        rw [Reference.responses_append, follows.responses, List.map_append]
        exact congrArg (_ ++ [·]) step.1
      · simp only [History.next]
        rw [Reference.after_append, Reference.settings_respond, lastSaved?_append,
          follows.settings key free, Option.or_assoc]
        exact congrArg (fun response => (Exchange.saved? key ⟨_, request, response⟩).or _) step.1
      · simp only [History.next]
        unfold currentSlot
        rw [Reference.after_append, Reference.slot_respond, lastSession?_append, follows.slot]
        simp only [step.1]
        cases Exchange.session? ⟨_, request, (StoredBridge.respond faults request history.state).1⟩
          with
        | none => rfl
        | some session => rfl

theorem Follows.run (follows : Follows directory loaded history) (events : List Event) :
    Follows directory loaded (history.run events) := by
  induction events generalizing history with
  | nil => exact follows
  | cons event rest ih => exact ih (follows.next event)

end Runs

/-- The responses to the next request, told by the writes so far. -/
structure Told (loaded : Members) (history : History) : Prop where
  setting : ∀ faults key, isReserved key = false →
    (respond faults (.call (.getSetting key)) history.state).1 =
      .answer (.ok (.value ((lastSaved? key history.exchanges).or (Members.get? loaded key))))
  slot : ∀ faults, (respond faults (.call (.getSetting sessionKey)) history.state).1 =
    .answer (.ok (.value (some (currentSlot loaded history.exchanges))))
  session : ∀ faults, (respond faults (.call .getSession) history.state).1 =
    .answer (.ok (.value ((currentSession loaded history.exchanges).map (·.tokens))))
  record : ∀ faults, (respond faults .sessionRecord history.state).1 =
    .record (currentSession loaded history.exchanges)
  reserved : ∀ faults value, respond faults (.call (.saveSetting sessionKey value)) history.state =
    (.answer (.ok (.written false)), history.state)

theorem readSlot_currentSlot (loaded : Members) (exchanges : List Exchange) :
    Reference.readSlot (currentSlot loaded exchanges) = currentSession loaded exchanges := by
  unfold currentSlot currentSession
  cases lastSession? exchanges with
  | none => rfl
  | some session => exact Reference.readSlot_slotOf session

theorem Follows.told {directory : String} {loaded : Members} {history : History}
    (follows : Follows directory loaded history) : Told loaded history := by
  have record : history.state.1.sessionRecord = currentSession loaded history.exchanges := by
    rw [follows.simulates.sessionRecord_eq, follows.slot, readSlot_currentSlot]
  refine ⟨fun faults key free => ?_, fun faults => ?_, fun faults => ?_, fun faults => ?_,
    fun faults value => rfl⟩
  · simp only [respond, perform]
    rw [follows.simulates.settings key free, follows.settings key free]
  · simp only [respond, perform]
    rw [follows.simulates.slot, follows.slot]
  · simp only [respond, perform]
    rw [record]
  · exact congrArg Response.record record

end History

/-- Whatever happens to an opened bridge, it responds as the reference machine that starts with the
loaded document. -/
theorem bridge_refines_reference {faults : Faults} {directory : String} {disk opened : Disk}
    {bridge : StoredBridge}
    (isOpen : StoredBridge.openIn faults directory disk = (.ok bridge, opened))
    (events : List Event) :
    let history := (History.begin bridge opened).run events
    (Reference.ofDocument bridge.store.document).responses history.exchanges =
        history.exchanges.map (·.response) ∧
      History.Told bridge.store.document history := by
  have stored : bridge.store.OpenIn directory := by
    unfold StoredBridge.openIn at isOpen
    split at isOpen
    · rename_i opening
      cases isOpen
      exact Store.openIn_of_openIn opening
    · cases isOpen
  have first : History.Follows directory bridge.store.document (.begin bridge opened) := by
    refine ⟨simulates_ofDocument stored, rfl, fun key free => ?_, rfl⟩
    show (if isReserved key then none else Members.get? bridge.store.document key) = _
    rw [if_neg (by simp [free])]
    rfl
  have last := first.run events
  exact ⟨last.responses, last.told⟩

/-- A session with `null` tokens is saved, a write of the reserved key is refused, and a folder is
chosen whose write fails. -/
def sampleEvents : List Event := [
  .request .none (.call (.saveSession .null "host")),
  .request .none (.call (.saveSetting sessionKey (.bool true))),
  .attach (.prepared [.ok (some [0x2f])] []),
  .request (.at .publish .permissionDenied) (.call .selectFolder),
  .request .none .sessionRecord]

theorem bridge_refines_reference_sample :
    ∃ bridge, StoredBridge.openIn .none "/data" Store.History.sampleDisk =
        (.ok bridge, Store.History.sampleDisk) ∧
      let history := (History.begin bridge Store.History.sampleDisk).run sampleEvents
      (Reference.ofDocument bridge.store.document).responses history.exchanges =
          history.exchanges.map (·.response) ∧
        History.Told bridge.store.document history := by
  have isOpen : StoredBridge.openIn .none "/data" Store.History.sampleDisk =
      (.ok ⟨⟨"/data/config.json", Settings.readDocument "\x7b\x7d".toUTF8⟩, none⟩,
        Store.History.sampleDisk) := rfl
  exact ⟨_, isOpen, bridge_refines_reference isOpen sampleEvents⟩

end StoredBridge

end WebviewHost.Bridge
