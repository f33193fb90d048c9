import WebviewHost.Proofs.Bridge.Calls

/-!
# Calls in flight together

Any number of calls is made on a stored bridge at once. A step that reads or changes the document is
taken under its lock. A folder dialog runs without the lock, so other calls may be served after it
was told where to start and before its folder is remembered. Whenever a call is served, it is served
as if it had been made by itself.
-/

set_option autoImplicit false

namespace WebviewHost.Bridge

open WebviewHost.Files (Disk Faults)
open WebviewHost.Settings (Store fileText lastDirectoryKey)
open WebviewHost.Settings.Store (Holds Untouched)

/-- How far a call has come. -/
inductive Stage where
  | waiting (call : Call)
  | choosing (start : Option String)
  | chosen (pick : Pick)
  | answered (answer : Answer)

/-- How many steps a call is away from its answer at most. -/
def Stage.remaining : Stage → Nat
  | .waiting _ => 3
  | .choosing _ => 2
  | .chosen _ => 1
  | .answered _ => 0

/-- Who takes a step, what goes wrong with the disk in it, and what the dialog answers that the step
closes, if it closes one. -/
structure Step where
  caller : Nat
  faults : Faults
  pick : Pick

/-- A call that has been served, its answer, and the write that took effect in it. -/
structure Service where
  caller : Nat
  call : Call
  faults : Faults
  pick : Pick
  answer : Answer
  landed : Option (String × Json)

/-- A dialog: whose it is, where it was told to start, and how many calls had been served when it
was opened. -/
structure Dialog where
  caller : Nat
  start : Option String
  served : Nat

/-- A bridge with calls in flight, and what has been done under its lock, in this order. -/
structure Crowd where
  bridge : StoredBridge
  disk : Disk
  stages : List Stage
  services : List Service
  dialogs : List Dialog

/-- The member that serving a call sets if that takes effect. -/
def Call.write? (pick : Pick) (disk : Disk) (call : Call) : Option (String × Json) :=
  match call, pick with
  | .selectFolder, .ok (some (byte :: path)) =>
      (StoredBridge.selectionText disk (byte :: path)).toOption.map fun folder =>
        (lastDirectoryKey, .string folder)
  | call, _ => call.change?

def StoredBridge.landed? (faults : Faults) (bridge : StoredBridge) (disk : Disk)
    (write? : Option (String × Json)) : Option (String × Json) :=
  write?.filter fun change => bridge.lands faults change.1 change.2 disk

namespace Crowd

def begin (bridge : StoredBridge) (disk : Disk) (calls : List Call) : Crowd :=
  ⟨bridge, disk, calls.map .waiting, [], []⟩

def serve (crowd : Crowd) (step : Step) (call : Call) (pick : Pick)
    (outcome : Answer × StoredBridge × Disk) : Crowd where
  bridge := outcome.2.1
  disk := outcome.2.2
  stages := crowd.stages.set step.caller (.answered outcome.1)
  services := crowd.services ++ [⟨step.caller, call, step.faults, pick, outcome.1,
    crowd.bridge.landed? step.faults crowd.disk (call.write? pick crowd.disk)⟩]
  dialogs := crowd.dialogs

def move (crowd : Crowd) (caller : Nat) (later : Stage) (opened : List Dialog) : Crowd :=
  { crowd with
    stages := crowd.stages.set caller later
    dialogs := crowd.dialogs ++ opened }

/-- What a caller does next. Choosing a folder takes three steps: the start directory is read under
the lock, the dialog runs without it, and the folder is remembered under the lock again. -/
def advance (crowd : Crowd) (step : Step) : Stage → Crowd
  | .waiting .selectFolder =>
      match crowd.bridge.picker with
      | none =>
          crowd.serve step .selectFolder (.ok none) (.ok (.folder none), crowd.bridge, crowd.disk)
      | some _ =>
          let start := crowd.bridge.startDirectory
          crowd.move step.caller (.choosing start)
            [⟨step.caller, start, crowd.services.length⟩]
  | .waiting call =>
      crowd.serve step call (.ok none)
        (StoredBridge.perform step.faults call (crowd.bridge, crowd.disk))
  | .choosing _ => crowd.move step.caller (.chosen step.pick) []
  | .chosen pick =>
      let (chosen, bridge, disk) := crowd.bridge.finishSelection step.faults pick crowd.disk
      crowd.serve step .selectFolder pick (chosen.map .folder, bridge, disk)
  | .answered _ => crowd

def next (crowd : Crowd) (step : Step) : Crowd :=
  match crowd.stages[step.caller]? with
  | some stage => crowd.advance step stage
  | none => crowd

def run (crowd : Crowd) (steps : List Step) : Crowd := steps.foldl next crowd

def landed (crowd : Crowd) : List (String × Json) := crowd.services.filterMap (·.landed)

end Crowd

/-! ## One call after another -/

/-- The call of a service made by itself, the dialog answering as it did then. -/
def Service.alone (attached : Bool) (service : Service) (store : Store) (disk : Disk) :
    Answer × Store × Disk :=
  let picker := if attached then some (Picker.prepared [service.pick] []) else none
  let (answer, bridge, disk) :=
    StoredBridge.perform service.faults service.call (⟨store, picker⟩, disk)
  (answer, bridge.store, disk)

def Service.inTurn (attached : Bool) :
    List Service → Store → Disk → List Answer × Store × Disk
  | [], store, disk => ([], store, disk)
  | service :: rest, store, disk =>
      let (answer, store, disk) := service.alone attached store disk
      let (answers, store, disk) := inTurn attached rest store disk
      (answer :: answers, store, disk)

theorem Service.inTurn_concat (attached : Bool) (services : List Service) (service : Service)
    (store : Store) (disk : Disk) :
    let before := inTurn attached services store disk
    let last := service.alone attached before.2.1 before.2.2
    inTurn attached (services ++ [service]) store disk = (before.1 ++ [last.1], last.2) := by
  induction services generalizing store disk with
  | nil => rfl
  | cons first rest ih =>
      dsimp only at ih ⊢
      simp only [List.cons_append, inTurn, ih]

/-- What a service answers fits what it writes. -/
structure Service.Honest (service : Service) : Prop where
  write : ∀ change, service.call.change? = some change →
    (service.answer = .ok (.written true) ∧ service.landed = some change) ∨
      (service.answer = .ok (.written false) ∧ service.landed = none)
  look : service.call.change? = none → service.call ≠ .selectFolder → service.landed = none
  folder : service.call = .selectFolder → ∀ change, service.landed = some change →
    ∃ chosen, service.answer = .ok (.folder (some chosen)) ∧
      change = (lastDirectoryKey, .string chosen)

/-- What serving a call comes to: its write takes effect in the document and in the file or in
neither, and all is as if the call had been made by itself. -/
structure Serves (bridge : StoredBridge) (disk : Disk) (faults : Faults) (call : Call) (pick : Pick)
    (outcome : Answer × StoredBridge × Disk) (landed : Option (String × Json)) : Prop where
  effect : (landed = none ∧ outcome.2.1 = bridge ∧ Untouched bridge.store.path disk outcome.2.2) ∨
    ∃ key value, landed = some (key, value) ∧ outcome.2.1 = bridge.insert key value ∧
      Holds bridge.store.path (fileText (bridge.insert key value).store.document) outcome.2.2
  alone : ∀ caller, Service.alone bridge.picker.isSome
    ⟨caller, call, faults, pick, outcome.1, landed⟩ bridge.store disk =
      (outcome.1, outcome.2.1.store, outcome.2.2)
  honest : ∀ caller, Service.Honest ⟨caller, call, faults, pick, outcome.1, landed⟩

theorem Serves.picker {bridge : StoredBridge} {disk : Disk} {faults : Faults}
    {call : Call} {pick : Pick} {outcome : Answer × StoredBridge × Disk} {landed : Option (String × Json)}
    (serves : Serves bridge disk faults call pick outcome landed) :
    outcome.2.1.picker = bridge.picker := by
  rcases serves.effect with ⟨_, same, _⟩ | ⟨key, value, _, same, _⟩ <;> rw [same]
  rfl

section Serving

variable {directory : String} {bridge : StoredBridge}

theorem eq_of_landed? {faults : Faults} {disk : Disk} {write? : Option (String × Json)}
    {change : String × Json} (landed : bridge.landed? faults disk write? = some change) :
    write? = some change :=
  (Option.filter_eq_some_iff.mp landed).1

/-- A write takes effect in the document and in the file or in neither. -/
theorem effect_of_write (isOpen : bridge.store.OpenIn directory) (faults : Faults) (disk : Disk)
    (key : String) (value : Json) :
    let landed := bridge.landed? faults disk (some (key, value))
    let outcome := (bridge.persist faults key value disk).2
    (landed = none ∧ outcome.1 = bridge ∧ Untouched bridge.store.path disk outcome.2) ∨
      ∃ key value, landed = some (key, value) ∧ outcome.1 = bridge.insert key value ∧
        Holds bridge.store.path (fileText (bridge.insert key value).store.document) outcome.2 := by
  rcases StoredBridge.persist_cases isOpen faults key value disk with
    ⟨left, landed, holds⟩ | ⟨left, failed, untouched⟩
  · refine .inr ⟨key, value, ?_, ?_, ?_⟩
    · simp [StoredBridge.landed?, ← StoredBridge.fst_persist, landed]
    · rw [landed]
    · rw [landed]
      exact holds
  · refine .inl ⟨?_, ?_, ?_⟩
    · simp [StoredBridge.landed?, ← StoredBridge.fst_persist, failed]
    · rw [failed]
    · rw [failed]
      exact untouched

theorem perform_withPicker (bridge : StoredBridge) {call : Call} (noDialog : call ≠ .selectFolder)
    (picker : Option Picker) (faults : Faults) (disk : Disk) :
    StoredBridge.perform faults call ({ bridge with picker }, disk) =
      ((StoredBridge.perform faults call (bridge, disk)).1,
        { (StoredBridge.perform faults call (bridge, disk)).2.1 with picker },
        (StoredBridge.perform faults call (bridge, disk)).2.2) := by
  cases call with
  | selectFolder => exact absurd rfl noDialog
  | getSession => rfl
  | getSetting key => rfl
  | saveSession tokens host => simp only [StoredBridge.perform, StoredBridge.persist_withPicker]
  | clearSession => simp only [StoredBridge.perform, StoredBridge.persist_withPicker]
  | saveSetting key value =>
      simp only [StoredBridge.perform]
      split
      · rfl
      · simp only [StoredBridge.persist_withPicker]

theorem write?_of_ne {call : Call} (noDialog : call ≠ .selectFolder) (pick : Pick) (disk : Disk) :
    call.write? pick disk = call.change? := by
  cases call with
  | selectFolder => exact absurd rfl noDialog
  | _ => rfl

theorem Service.Honest.of_look {service : Service} (looks : service.call.change? = none)
    (noDialog : service.call ≠ .selectFolder) (nothing : service.landed = none) :
    service.Honest := by
  constructor
  · intro change made
    cases looks.symm.trans made
  · intro _ _
    exact nothing
  · intro dialog
    exact absurd dialog noDialog

theorem Service.Honest.of_write {service : Service} {change : String × Json}
    (changes : service.call.change? = some change)
    (told : (service.answer = .ok (.written true) ∧ service.landed = some change) ∨
      (service.answer = .ok (.written false) ∧ service.landed = none)) : service.Honest := by
  constructor
  · intro other made
    cases changes.symm.trans made
    exact told
  · intro looks
    cases changes.symm.trans looks
  · intro dialog
    rw [dialog] at changes
    cases changes

theorem Service.Honest.of_folder {service : Service} (dialog : service.call = .selectFolder)
    (told : ∀ change, service.landed = some change →
      ∃ chosen, service.answer = .ok (.folder (some chosen)) ∧
        change = (lastDirectoryKey, .string chosen)) : service.Honest := by
  constructor
  · intro change made
    rw [dialog] at made
    cases made
  · intro _ noDialog
    exact absurd dialog noDialog
  · intro _
    exact told

theorem serves_perform (isOpen : bridge.store.OpenIn directory) {call : Call}
    (noDialog : call ≠ .selectFolder) (faults : Faults) (disk : Disk) :
    Serves bridge disk faults call (.ok none) (StoredBridge.perform faults call (bridge, disk))
      (bridge.landed? faults disk (call.write? (.ok none) disk)) := by
  have alone : ∀ caller answer landed,
      Service.alone bridge.picker.isSome ⟨caller, call, faults, .ok none, answer, landed⟩
        bridge.store disk = ((StoredBridge.perform faults call (bridge, disk)).1,
          (StoredBridge.perform faults call (bridge, disk)).2.1.store,
          (StoredBridge.perform faults call (bridge, disk)).2.2) := by
    intro caller answer landed
    unfold Service.alone
    dsimp only
    rw [perform_withPicker bridge noDialog]
  rw [write?_of_ne noDialog]
  cases change : call.change? with
  | none =>
      have same := StoredBridge.perform_of_no_change change noDialog faults (bridge, disk)
      refine ⟨.inl ⟨rfl, ?_⟩, fun caller => alone caller _ _, fun caller => ?_⟩
      · rw [same]
        exact ⟨rfl, rfl⟩
      · exact .of_look change noDialog rfl
  | some write =>
      obtain ⟨key, value⟩ := write
      have outcome := StoredBridge.perform_of_change change faults bridge disk
      refine ⟨?_, fun caller => alone caller _ _, fun caller => .of_write change ?_⟩
      · rw [outcome]
        exact effect_of_write isOpen faults disk key value
      · rw [outcome]
        cases landed : (bridge.persist faults key value disk).1 with
        | true => exact .inl ⟨rfl, by simp [StoredBridge.landed?, ← StoredBridge.fst_persist, landed]⟩
        | false => exact .inr ⟨rfl, by simp [StoredBridge.landed?, ← StoredBridge.fst_persist, landed]⟩

theorem serves_noPicker (noPicker : bridge.picker = none) (faults : Faults) (disk : Disk) :
    Serves bridge disk faults .selectFolder (.ok none) (.ok (.folder none), bridge, disk)
      (bridge.landed? faults disk (Call.write? (.ok none) disk .selectFolder)) := by
  refine ⟨.inl ⟨rfl, rfl, rfl⟩, fun caller => ?_, fun caller => .of_folder rfl ?_⟩
  · unfold Service.alone
    rw [noPicker]
    rfl
  · intro change landed
    cases landed

theorem finishSelection_withPicker (bridge : StoredBridge) (picker : Option Picker)
    (faults : Faults) (pick : Pick) (disk : Disk) :
    StoredBridge.finishSelection faults { bridge with picker } pick disk =
      ((bridge.finishSelection faults pick disk).1,
        { (bridge.finishSelection faults pick disk).2.1 with picker },
        (bridge.finishSelection faults pick disk).2.2) := by
  unfold StoredBridge.finishSelection
  split
  · rfl
  · rfl
  · rfl
  · split
    · rfl
    · simp only [StoredBridge.persist_withPicker]

theorem finishSelection_cases (pick : Pick) (faults : Faults) (bridge : StoredBridge) (disk : Disk) :
    (Call.write? pick disk .selectFolder = none ∧
      (bridge.finishSelection faults pick disk).2 = (bridge, disk)) ∨
    ∃ chosen, Call.write? pick disk .selectFolder = some (lastDirectoryKey, .string chosen) ∧
      bridge.finishSelection faults pick disk =
        (.ok (some chosen), (bridge.persist faults lastDirectoryKey (.string chosen) disk).2) := by
  cases pick with
  | error error => exact .inl ⟨rfl, rfl⟩
  | ok picked =>
      rcases picked with _ | _ | ⟨byte, path⟩
      · exact .inl ⟨rfl, rfl⟩
      · exact .inl ⟨rfl, rfl⟩
      · simp only [Call.write?, StoredBridge.finishSelection]
        cases StoredBridge.selectionText disk (byte :: path) with
        | error cause => exact .inl ⟨rfl, rfl⟩
        | ok folder => exact .inr ⟨folder, rfl, rfl⟩

/-- A selection ends as if nobody else had been served since its dialog was opened. -/
theorem serves_finishSelection (isOpen : bridge.store.OpenIn directory)
    (attached : bridge.picker.isSome = true) (faults : Faults) (pick : Pick) (disk : Disk) :
    Serves bridge disk faults .selectFolder pick
      ((bridge.finishSelection faults pick disk).1.map .folder,
        (bridge.finishSelection faults pick disk).2)
      (bridge.landed? faults disk (Call.write? pick disk .selectFolder)) := by
  have alone : ∀ caller answer landed,
      Service.alone bridge.picker.isSome ⟨caller, .selectFolder, faults, pick, answer, landed⟩
        bridge.store disk = ((bridge.finishSelection faults pick disk).1.map .folder,
          (bridge.finishSelection faults pick disk).2.1.store,
          (bridge.finishSelection faults pick disk).2.2) := by
    intro caller answer landed
    have asked (start : Option String) := finishSelection_withPicker bridge
      (some (.prepared [] [start])) faults pick disk
    simp only [Service.alone, attached, if_true, StoredBridge.perform, StoredBridge.selectFolder,
      Picker.ask, StoredBridge.attach, List.head?_cons, Option.getD_some, List.tail_cons,
      List.nil_append, asked]
  rcases finishSelection_cases pick faults bridge disk with ⟨nothing, same⟩ | ⟨chosen, write, ended⟩
  · rw [nothing]
    refine ⟨.inl ⟨rfl, ?_⟩, fun caller => alone caller _ _, fun caller => .of_folder rfl ?_⟩
    · rw [same]
      exact ⟨rfl, rfl⟩
    · intro change landed
      cases landed
  · rw [write]
    refine ⟨?_, fun caller => alone caller _ _, fun caller => .of_folder rfl ?_⟩
    · rw [ended]
      exact effect_of_write isOpen faults disk lastDirectoryKey (.string chosen)
    · intro change landed
      rw [ended]
      exact ⟨chosen, rfl, (Option.some.inj (eq_of_landed? landed)).symm⟩

end Serving

end WebviewHost.Bridge
