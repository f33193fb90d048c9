import Mathlib.Data.List.Forall2
import WebviewHost.Proofs.Bridge.Refinement
import WebviewHost.Proofs.Text.Utf8

/-!
# Choosing folders

A dialog starts at the folder that was remembered last, by a dialog or by a setting that was saved,
and what it comes back with is remembered if that can be written. Where dialogs start is told by the
exchanges alone, whatever the picker answers and whichever writes fail.
-/

set_option autoImplicit false

namespace WebviewHost.Bridge

open WebviewHost.Files (Cause Disk Faults endsInSlash isAbsolute isAbsolute_iff isAbsolute_joinPath
  joinPath ne_empty_of_isAbsolute)
open WebviewHost.Settings (Store fileText isReserved lastDirectoryKey)
open WebviewHost.Text (decodeUtf8Lossy decodeUtf8Lossy_encodeUtf8
  decodeUtf8Lossy_encodeUtf8_append encodeUtf8)

/-! ## The text of a folder -/

/-- What a chosen path is called: an absolute one by its own text, a relative one by its text below
the working directory, which has to be there. -/
structure CalledAs (disk : Disk) (path : List UInt8) (folder : String) : Prop where
  absolute : path.head? = some 0x2f → folder = decodeUtf8Lossy path
  present : path.head? ≠ some 0x2f → disk.currentDirectory = .ok disk.workingDirectory
  relative : path.head? ≠ some 0x2f → isAbsolute disk.workingDirectory = true →
    folder = joinPath disk.workingDirectory (decodeUtf8Lossy path)
  text : ∀ text, path = encodeUtf8 text → decodeUtf8Lossy path = text
  begins : isAbsolute disk.workingDirectory = true → isAbsolute folder = true
  nonempty : isAbsolute disk.workingDirectory = true → folder ≠ ""

section Text

variable {disk : Disk} {path : List UInt8} {folder : String}

theorem isAbsolute_decodeUtf8Lossy (begins : path.head? = some 0x2f) :
    isAbsolute (decodeUtf8Lossy path) = true := by
  obtain ⟨rest, rfl⟩ := List.head?_eq_some_iff.mp begins
  exact isAbsolute_iff.mpr ⟨_, decodeUtf8Lossy_encodeUtf8_append "/" rest⟩

/-- A path below a directory, as it is put together before it is decoded. -/
theorem decodeUtf8Lossy_below {directory : String} (absolute : isAbsolute directory = true)
    (path : List UInt8) :
    decodeUtf8Lossy (encodeUtf8 directory ++
        (if endsInSlash directory then path else 0x2f :: path)) =
      joinPath directory (decodeUtf8Lossy path) := by
  have nonempty : directory.isEmpty = false := by
    simpa using ne_empty_of_isAbsolute absolute
  unfold joinPath
  rw [decodeUtf8Lossy_encodeUtf8_append, nonempty, Bool.or_false]
  split
  next => rfl
  next =>
    rw [String.append_assoc]
    exact congrArg _ (decodeUtf8Lossy_encodeUtf8_append "/" path)

theorem selectionText_of_absolute (absolute : path.head? = some 0x2f) :
    StoredBridge.selectionText disk path = .ok (decodeUtf8Lossy path) := by
  unfold StoredBridge.selectionText StoredBridge.absolutePath
  rw [if_pos absolute]
  rfl

/-- A relative path has no text where the working directory is gone. -/
theorem gone_of_selectionText {cause : Cause}
    (failed : StoredBridge.selectionText disk path = .error cause) :
    path.head? ≠ some 0x2f ∧ disk.currentDirectory = .error cause := by
  by_cases own : path.head? = some 0x2f
  · cases (selectionText_of_absolute own).symm.trans failed
  · refine ⟨own, ?_⟩
    unfold StoredBridge.selectionText StoredBridge.absolutePath at failed
    rw [if_neg own] at failed
    rcases disk.currentDirectory_cases with present | gone
    · rw [present] at failed
      cases failed
    · rw [gone] at failed ⊢
      cases failed
      rfl

theorem calledAs_of_selectionText (chosen : StoredBridge.selectionText disk path = .ok folder) :
    CalledAs disk path folder := by
  have text : ∀ text, path = encodeUtf8 text → decodeUtf8Lossy path = text := by
    rintro text rfl
    exact decodeUtf8Lossy_encodeUtf8 text
  by_cases own : path.head? = some 0x2f
  · cases (selectionText_of_absolute own).symm.trans chosen
    have begins := isAbsolute_decodeUtf8Lossy own
    exact ⟨fun _ => rfl, fun relative => absurd own relative, fun relative => absurd own relative,
      text, fun _ => begins, fun _ => ne_empty_of_isAbsolute begins⟩
  · unfold StoredBridge.selectionText StoredBridge.absolutePath at chosen
    rw [if_neg own] at chosen
    rcases disk.currentDirectory_cases with present | gone
    · rw [present] at chosen
      cases chosen
      have below (working : isAbsolute disk.workingDirectory = true) :=
        decodeUtf8Lossy_below working path
      have begins (working : isAbsolute disk.workingDirectory = true) :=
        below working ▸ isAbsolute_joinPath working (decodeUtf8Lossy path)
      exact ⟨fun absolute => absurd absolute own, fun _ => present, fun _ => below, text, begins,
        fun working => ne_empty_of_isAbsolute (begins working)⟩
    · rw [gone] at chosen
      cases chosen

end Text

/-! ## One dialog -/

/-- A dialog starts at a remembered folder if that is a non-empty string, and nowhere in particular
otherwise. -/
def StartsAt (remembered : Option Json) (start : Option String) : Prop :=
  ∀ folder, start = some folder ↔ remembered = some (.string folder) ∧ folder ≠ ""

namespace StoredBridge

theorem startsAt_startDirectory (bridge : StoredBridge) :
    StartsAt (bridge.store.get? lastDirectoryKey) bridge.startDirectory := by
  intro folder
  unfold startDirectory
  split
  next start held =>
    rw [held]
    by_cases empty : start = ""
    · subst empty
      simp
    · simp [empty]
      rintro rfl
      exact empty
  next other =>
    refine iff_of_false (fun same => by cases same) ?_
    rintro ⟨held, _⟩
    exact other folder held

/-- A bridge that has remembered a folder, in its document and in its file, and nothing else. -/
structure Remembers (before : StoredBridge) (folder : String) (after : StoredBridge)
    (disk : Disk) : Prop where
  picker : after.picker = before.picker
  remembered : after.store.get? lastDirectoryKey = some (.string folder)
  others : ∀ key, key ≠ lastDirectoryKey → after.store.get? key = before.store.get? key
  file : Store.Holds before.store.path (fileText after.store.document) disk

/-- How a dialog ends, by what the picker came back with. A relative path needs the working directory.
Only a folder that reaches the file is remembered, but one that does not counts as well. -/
inductive Ends (faults : Faults) (bridge : StoredBridge) (disk : Disk) :
    Pick → Answer → StoredBridge → Disk → Prop where
  | failed {error : PickerError} :
      Ends faults bridge disk (.error error) (.error (.host error.message)) bridge disk
  | cancelled : Ends faults bridge disk (.ok none) (.ok (.folder none)) bridge disk
  | empty : Ends faults bridge disk (.ok (some [])) (.ok (.folder none)) bridge disk
  | nowhere {path : List UInt8} {cause : Cause} :
      path ≠ [] → path.head? ≠ some 0x2f → disk.currentDirectory = .error cause →
      Ends faults bridge disk (.ok (some path)) (.error (.host cause.message)) bridge disk
  | remembered {path : List UInt8} {folder : String} {after : StoredBridge} {left : Disk} :
      path ≠ [] → CalledAs disk path folder →
      (Store.course faults bridge.store lastDirectoryKey (.string folder) disk).failure = none →
      Remembers bridge folder after left →
      Ends faults bridge disk (.ok (some path)) (.ok (.folder (some folder))) after left
  | forgotten {path : List UInt8} {folder : String} {left : Disk} :
      path ≠ [] → CalledAs disk path folder →
      (Store.course faults bridge.store lastDirectoryKey (.string folder) disk).failure ≠ none →
      Store.Untouched bridge.store.path disk left →
      Ends faults bridge disk (.ok (some path)) (.ok (.folder (some folder))) bridge left

theorem Ends.picker {faults : Faults} {bridge after : StoredBridge} {disk left : Disk} {pick : Pick}
    {answer : Answer} (ends : Ends faults bridge disk pick answer after left) :
    after.picker = bridge.picker := by
  cases ends with
  | remembered _ _ _ remembers => exact remembers.picker
  | failed => rfl
  | cancelled => rfl
  | empty => rfl
  | nowhere _ _ _ => rfl
  | forgotten _ _ _ _ => rfl

section Dialog

variable {directory : String} {bridge : StoredBridge}

/-- A folder is remembered, or its write fails and nothing is. -/
theorem ends_persist (isOpen : bridge.store.OpenIn directory) (faults : Faults)
    {path : List UInt8} (nonempty : path ≠ []) {disk : Disk} {folder : String}
    (called : CalledAs disk path folder) :
    Ends faults bridge disk (.ok (some path)) (.ok (.folder (some folder)))
      (bridge.persist faults lastDirectoryKey (.string folder) disk).2.1
      (bridge.persist faults lastDirectoryKey (.string folder) disk).2.2 := by
  have replaced := isOpen.replaced faults lastDirectoryKey (.string folder) disk
  unfold persist
  rcases Store.set_eq isOpen faults lastDirectoryKey (.string folder) disk with
    ⟨quiet, done⟩ | ⟨failure, error, failed⟩
  · rw [done]
    refine .remembered nonempty called quiet ⟨rfl, ?_, ?_, ?_⟩
    · exact (get?_insert bridge _ _ _).trans (if_pos rfl)
    · intro key other
      exact (get?_insert bridge _ _ _).trans (if_neg other)
    · exact replaced.done quiet
  · rw [failed]
    exact .forgotten nonempty called failure (replaced.failed failure).1

theorem ends_finishSelection (isOpen : bridge.store.OpenIn directory) (faults : Faults)
    (pick : Pick) (disk : Disk) :
    Ends faults bridge disk pick ((bridge.finishSelection faults pick disk).1.map .folder)
      (bridge.finishSelection faults pick disk).2.1
      (bridge.finishSelection faults pick disk).2.2 := by
  cases pick with
  | error error => exact .failed
  | ok picked =>
      rcases picked with _ | _ | ⟨byte, path⟩
      · exact .cancelled
      · exact .empty
      · have nonempty := List.cons_ne_nil byte path
        simp only [finishSelection]
        cases chosen : selectionText disk (byte :: path) with
        | error cause =>
            obtain ⟨relative, gone⟩ := gone_of_selectionText chosen
            exact .nowhere nonempty relative gone
        | ok folder => exact ends_persist isOpen faults nonempty (calledAs_of_selectionText chosen)

theorem perform_selectFolder_of_picker {picker : Picker} (attached : bridge.picker = some picker)
    (faults : Faults) (disk : Disk) :
    let asked := picker.ask disk bridge.startDirectory
    let ended := (bridge.attach asked.2).finishSelection faults asked.1 disk
    perform faults .selectFolder (bridge, disk) = (ended.1.map .folder, ended.2) := by
  dsimp only
  simp only [perform, selectFolder, attached]

end Dialog

/-! ## Dialogs of a run -/

namespace History

/-- The setting that remembers a folder: as it was written last, by a dialog or by name, and
otherwise as it was loaded. -/
def remembered (loaded : Members) (exchanges : List Exchange) : Option Json :=
  (lastSaved? lastDirectoryKey exchanges).or (Members.get? loaded lastDirectoryKey)

/-- What is remembered when each dialog of a run is opened. -/
def rememberedAtDialogs (loaded : Members) (history : History) : List Event → List (Option Json)
  | [] => []
  | event :: rest =>
      let later := rememberedAtDialogs loaded (history.next event) rest
      match event with
      | .request _ (.call .selectFolder) => remembered loaded history.exchanges :: later
      | _ => later

/-- How a bridge that has been through a history chooses folders from then on. -/
structure ChoosesFolders (loaded : Members) (history : History) : Prop where
  current : history.state.1.store.get? lastDirectoryKey = remembered loaded history.exchanges
  unattached : history.state.1.picker = none → ∀ faults,
    perform faults .selectFolder history.state = (.ok (.folder none), history.state)
  dialog : ∀ picker, history.state.1.picker = some picker → ∀ faults,
    ∃ start, StartsAt (remembered loaded history.exchanges) start ∧
      Ends faults (history.state.1.attach (picker.ask history.state.2 start).2) history.state.2
        (picker.ask history.state.2 start).1
        (perform faults .selectFolder history.state).1
        (perform faults .selectFolder history.state).2.1
        (perform faults .selectFolder history.state).2.2
  starts : ∀ answers earlier, history.state.1.picker = some (.prepared answers earlier) →
    ∀ events, (∀ picker, Event.attach picker ∉ events) →
    ∃ starts, List.Forall₂ StartsAt (history.rememberedAtDialogs loaded events) starts ∧
      (history.run events).state.1.picker =
        some (.prepared (answers.drop starts.length) (earlier ++ starts))

section Runs

variable {directory : String} {loaded : Members} {history : History}

theorem Follows.current (follows : Follows directory loaded history) :
    history.state.1.store.get? lastDirectoryKey = remembered loaded history.exchanges := by
  have free : isReserved lastDirectoryKey = false := by decide
  rw [follows.simulates.settings lastDirectoryKey free, follows.settings lastDirectoryKey free]
  rfl

theorem Follows.startsAt (follows : Follows directory loaded history) :
    StartsAt (remembered loaded history.exchanges) history.state.1.startDirectory :=
  follows.current ▸ startsAt_startDirectory history.state.1

theorem Follows.dialog (follows : Follows directory loaded history) {picker : Picker}
    (attached : history.state.1.picker = some picker) (faults : Faults) :
    let start := history.state.1.startDirectory
    Ends faults (history.state.1.attach (picker.ask history.state.2 start).2) history.state.2
      (picker.ask history.state.2 start).1
      (perform faults .selectFolder history.state).1
      (perform faults .selectFolder history.state).2.1
      (perform faults .selectFolder history.state).2.2 := by
  dsimp only
  rw [perform_selectFolder_of_picker attached]
  exact ends_finishSelection (follows.simulates.attach _).isOpen faults _ _

theorem picker_persist (bridge : StoredBridge) (faults : Faults) (key : String) (value : Json)
    (disk : Disk) : (bridge.persist faults key value disk).2.1.picker = bridge.picker := by
  rw [show bridge = { bridge with picker := bridge.picker } from rfl, persist_withPicker]

/-- Only dialogs use the picker. -/
theorem picker_perform {call : Call} (noDialog : call ≠ .selectFolder) (faults : Faults)
    (state : StoredBridge × Disk) : (perform faults call state).2.1.picker = state.1.picker := by
  cases change : call.change? with
  | none => rw [perform_of_no_change change noDialog]
  | some write =>
      rw [perform_of_change change]
      exact picker_persist state.1 faults write.1 write.2 state.2

theorem picker_next {call : Call} (noDialog : call ≠ .selectFolder) (history : History)
    (faults : Faults) :
    (history.next (.request faults (.call call))).state.1.picker = history.state.1.picker :=
  picker_perform noDialog faults history.state

/-- A prepared picker notes where each dialog of a run starts. -/
theorem Follows.starts (follows : Follows directory loaded history) {answers : List Pick}
    {earlier : List (Option String)}
    (attached : history.state.1.picker = some (.prepared answers earlier)) (events : List Event)
    (kept : ∀ picker, Event.attach picker ∉ events) :
    ∃ starts, List.Forall₂ StartsAt (history.rememberedAtDialogs loaded events) starts ∧
      (history.run events).state.1.picker =
        some (.prepared (answers.drop starts.length) (earlier ++ starts)) := by
  induction events generalizing history answers earlier with
  | nil =>
      refine ⟨[], .nil, ?_⟩
      rw [List.append_nil]
      exact attached
  | cons event rest ih =>
      have follows' := follows.next event
      have keptRest : ∀ picker, Event.attach picker ∉ rest :=
        fun picker member => kept picker (List.mem_cons_of_mem _ member)
      have quiet (same : (history.next event).state.1.picker = history.state.1.picker) :
          ∃ starts, List.Forall₂ StartsAt
              ((history.next event).rememberedAtDialogs loaded rest) starts ∧
            ((history.next event).run rest).state.1.picker =
              some (.prepared (answers.drop starts.length) (earlier ++ starts)) :=
        ih follows' (same.trans attached) keptRest
      cases event with
      | attach picker => exact absurd List.mem_cons_self (kept picker)
      | outside meddle => exact quiet rfl
      | request faults request =>
          cases request with
          | sessionRecord => exact quiet rfl
          | call call =>
              cases call with
              | selectFolder =>
                  have asked := (follows.dialog attached faults).picker
                  obtain ⟨starts, each, noted⟩ := ih follows' asked keptRest
                  refine ⟨history.state.1.startDirectory :: starts, .cons follows.startsAt each, ?_⟩
                  have shifted : earlier ++ history.state.1.startDirectory :: starts =
                      earlier ++ [history.state.1.startDirectory] ++ starts := by simp
                  rw [List.length_cons, ← List.drop_tail, shifted]
                  exact noted
              | _ => exact quiet (picker_next (by nofun) history faults)

theorem Follows.choosesFolders (follows : Follows directory loaded history) :
    ChoosesFolders loaded history := by
  constructor
  case current => exact follows.current
  case unattached =>
    intro noPicker faults
    simp only [perform, selectFolder, noPicker]
    rfl
  case dialog =>
    intro picker attached faults
    exact ⟨_, follows.startsAt, follows.dialog attached faults⟩
  case starts =>
    intro answers earlier attached events kept
    exact follows.starts attached events kept

end Runs

theorem follows_begin {faults : Faults} {directory : String} {disk opened : Disk}
    {bridge : StoredBridge}
    (isOpen : StoredBridge.openIn faults directory disk = (.ok bridge, opened)) :
    Follows directory bridge.store.document (.begin bridge opened) := by
  have stored := Store.openIn_of_openIn (openIn_eq_ok isOpen).1
  refine ⟨simulates_ofDocument stored, rfl, fun key free => ?_, rfl⟩
  show (if isReserved key then none else Members.get? bridge.store.document key) = _
  rw [if_neg (by simp [free])]
  rfl

end History

/-- Whatever has happened to an opened bridge, its next dialog starts at the folder that was
remembered last, and the folder it comes back with is the next one if it can be remembered. -/
theorem run_choosesFolders {faults : Faults} {directory : String} {disk opened : Disk}
    {bridge : StoredBridge}
    (isOpen : StoredBridge.openIn faults directory disk = (.ok bridge, opened))
    (events : List Event) :
    History.ChoosesFolders bridge.store.document ((History.begin bridge opened).run events) :=
  ((History.follows_begin isOpen).run events).choosesFolders

/-- A folder is chosen, a dialog fails, one comes back with a relative path that is not UTF-8 and
cannot be remembered, and another folder is saved by name. -/
def dialogEvents : List Event := [
  .attach (.prepared [.ok (some [0x2f, 0x61]), .error (.notADirectory "b"),
    .ok (some [0x63, 0xff]), .ok none] []),
  .request .none (.call .selectFolder),
  .request .none (.call .selectFolder),
  .request (.at .publish .permissionDenied) (.call .selectFolder),
  .request .none (.call (.saveSetting lastDirectoryKey (.string "/d")))]

theorem run_choosesFolders_dialogs :
    ∃ bridge, StoredBridge.openIn .none "/data" Store.History.sampleDisk =
        (.ok bridge, Store.History.sampleDisk) ∧
      History.ChoosesFolders bridge.store.document
        ((History.begin bridge Store.History.sampleDisk).run dialogEvents) := by
  have isOpen : StoredBridge.openIn .none "/data" Store.History.sampleDisk =
      (.ok ⟨⟨"/data/config.json", Settings.readDocument "\x7b\x7d".toUTF8⟩, none⟩,
        Store.History.sampleDisk) := rfl
  exact ⟨_, isOpen, run_choosesFolders isOpen dialogEvents⟩

end StoredBridge

end WebviewHost.Bridge
