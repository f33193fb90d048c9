import Mathlib.Data.List.Forall2
import WebviewHost.Cli.Run
import WebviewHost.Proofs.Bridge.Calls
import WebviewHost.Proofs.Bridge.Invocation
import WebviewHost.Proofs.Settings.Visit

/-!
# Reports of the command line

What a command says about a write is what has become of the settings file. If it reports one, the
file holds the document that was there with one member replaced; otherwise the file is as it was,
whatever the file system refuses. A file that the file system denies counts as one that is not there.
-/

set_option autoImplicit false

namespace WebviewHost.Cli

open WebviewHost.Bridge (Call Reply StoredBridge decodeCall decodeCall_eq_ok_iff invoke
  invoke_of_error invoke_of_ok)
open WebviewHost.Files (Disk Faults joinPath)
open WebviewHost.Server (Config)
open WebviewHost.Settings (SessionRecord Store fileText lastDirectoryKey sessionKey)
open WebviewHost.Settings.Store (ChangedIn KeptIn Visit)

/-! ## Writes and reports -/

def Denote (texts : List String) (values : List Json) : Prop :=
  List.Forall₂ (fun text value => Json.read? text = some value) texts values

/-- The member that a command is to set, and the value it is to get. -/
inductive Writes : Command → String → Json → Prop where
  | saveSession {host tokens : String} :
      Writes (.saveSession host tokens) sessionKey
        (SessionRecord.toStored ⟨parseValue tokens, host⟩)
  | clearSession : Writes .clearSession sessionKey .null
  | setSetting {key value : String} : Writes (.setSetting key value) key (parseValue value)
  | pickFolder {selected : String} : Writes .pickFolder lastDirectoryKey (.string selected)
  | call {call : Call} {texts : List String} {key : String} {value : Json} :
      Denote texts call.arguments → call.change? = some (key, value) →
      Writes (.call call.name texts) key value

def writeOperations : List String := ["save_session", "clear_session", "save_setting"]

/-- What counts as a report of a successful write. -/
inductive ReportsWrite (outcome : Outcome) : Command → Prop where
  | saveSession {host tokens : String} : outcome.exitCode = some 0 →
      ReportsWrite outcome (.saveSession host tokens)
  | clearSession : outcome.exitCode = some 0 → ReportsWrite outcome .clearSession
  | setSetting {key value : String} : outcome.exitCode = some 0 →
      ReportsWrite outcome (.setSetting key value)
  | call {operation : String} {texts : List String} : operation ∈ writeOperations →
      outcome.exitCode = some 0 → outcome.printed = "true\n" →
      ReportsWrite outcome (.call operation texts)

theorem ReportsWrite.exitCode {outcome : Outcome} {command : Command}
    (reports : ReportsWrite outcome command) : outcome.exitCode = some 0 := by
  cases reports <;> assumption

variable {surroundings : Surroundings} {directory : String} {disk : Disk}

/-- What a command does in its data directory, and that it says so. -/
inductive Accounted (surroundings : Surroundings) (directory : String) (disk : Disk)
    (command : Command) (outcome : Outcome) : Prop where
  | kept : Visit surroundings.openingFaults surroundings.writingFaults directory disk none
        outcome.disk →
      ¬ReportsWrite outcome command → Accounted surroundings directory disk command outcome
  | written {key : String} {value : Json} :
      Visit surroundings.openingFaults surroundings.writingFaults directory disk
        (some (key, value)) outcome.disk →
      Writes command key value →
      ReportsWrite outcome command ∨ (command = .pickFolder ∧ outcome.exitCode = some 0) →
      Accounted surroundings directory disk command outcome

theorem accounted_failure {command : Command} {left : Disk} (failure : Failure)
    (visit : Visit surroundings.openingFaults surroundings.writingFaults directory disk none left) :
    Accounted surroundings directory disk command (.failure failure left) :=
  .kept visit fun reports => nomatch reports.exitCode

/-! ## Calls on a bridge -/

theorem visit_of_persist {opening : Faults} (writing : Faults) {store : Store} {opened : Disk}
    (isOpened : Store.openIn opening directory disk = (.ok store, opened))
    (picker : Option Bridge.Picker) (key : String) (value : Json) :
    Visit opening writing directory disk
      (if (StoredBridge.persist writing ⟨store, picker⟩ key value opened).1 then some (key, value)
        else none)
      (StoredBridge.persist writing ⟨store, picker⟩ key value opened).2.2 := by
  unfold StoredBridge.persist
  dsimp only
  rcases outcome : store.set writing key value opened with ⟨error | ⟨⟩, after, left⟩
  · exact .refused isOpened outcome
  · exact .changed isOpened outcome

theorem mem_writeOperations_of_change {call : Call} {change : String × Json}
    (changes : call.change? = some change) : call.name ∈ writeOperations := by
  cases call with
  | selectFolder => cases changes
  | getSession => cases changes
  | getSetting key => cases changes
  | saveSession tokens host =>
      show "save_session" ∈ writeOperations
      decide
  | clearSession =>
      show "clear_session" ∈ writeOperations
      decide
  | saveSetting key value =>
      show "save_setting" ∈ writeOperations
      decide

/-- A call answers `true` if it has changed a member, and a write that has not answers `false`. -/
theorem visit_of_perform {opening : Faults} (writing : Faults) {store : Store} {opened : Disk}
    (isOpened : Store.openIn opening directory disk = (.ok store, opened)) (call : Call) :
    ∃ reply after left,
      StoredBridge.perform writing call (⟨store, none⟩, opened) = (.ok reply, after, left) ∧
        ((∃ key value, call.change? = some (key, value) ∧ reply = .written true ∧
            Visit opening writing directory disk (some (key, value)) left) ∨
          ((call.name ∈ writeOperations → reply = .written false) ∧
            Visit opening writing directory disk none left)) := by
  cases changes : call.change? with
  | some change =>
      obtain ⟨key, value⟩ := change
      have visit := visit_of_persist writing isOpened none key value
      rw [StoredBridge.perform_of_change changes]
      refine ⟨_, _, _, rfl, ?_⟩
      cases landed : (StoredBridge.persist writing ⟨store, none⟩ key value opened).1 with
      | true =>
          rw [landed] at visit
          exact .inl ⟨key, value, rfl, rfl, visit⟩
      | false =>
          rw [landed] at visit
          exact .inr ⟨fun _ => rfl, visit⟩
  | none =>
      have visit : Visit opening writing directory disk none opened := .opened isOpened
      have look : ∀ {reply : Reply}, call.name ∉ writeOperations →
          (call.name ∈ writeOperations → reply = .written false) ∧
            Visit opening writing directory disk none opened :=
        fun other => ⟨fun member => absurd member other, visit⟩
      cases call with
      | selectFolder =>
          exact ⟨_, _, _, rfl, .inr (look (show "select_folder" ∉ writeOperations by decide))⟩
      | getSession =>
          exact ⟨_, _, _, rfl, .inr (look (show "get_session" ∉ writeOperations by decide))⟩
      | getSetting key =>
          exact ⟨_, _, _, rfl, .inr (look (show "get_setting" ∉ writeOperations by decide))⟩
      | saveSession tokens host => cases changes
      | clearSession => cases changes
      | saveSetting key value =>
          have reserved : Settings.isReserved key = true := by simpa [Call.change?] using changes
          refine ⟨.written false, ⟨store, none⟩, opened, ?_, .inr ⟨fun _ => rfl, visit⟩⟩
          simp only [StoredBridge.perform, if_pos reserved]

/-! ## Commands -/

variable {command : Command}

theorem accounted_withBridge {run : StoredBridge → Disk → Outcome}
    (enters : ∀ store opened,
      Store.openIn surroundings.openingFaults directory disk = (.ok store, opened) →
      Accounted surroundings directory disk command (run ⟨store, none⟩ opened)) :
    Accounted surroundings directory disk command (withBridge surroundings directory disk run) := by
  unfold withBridge StoredBridge.openIn
  rcases outcome : Store.openIn surroundings.openingFaults directory disk with ⟨error | store, left⟩
  · exact accounted_failure _ (.opened outcome)
  · exact enters store left outcome

theorem accounted_makeCall {call : Call} {conclude : Reply → Disk → Outcome}
    (changed : ∀ key value left, call.change? = some (key, value) →
      Visit surroundings.openingFaults surroundings.writingFaults directory disk (some (key, value))
        left →
      Accounted surroundings directory disk command (conclude (.written true) left))
    (unchanged : ∀ reply left, (call.name ∈ writeOperations → reply = .written false) →
      Visit surroundings.openingFaults surroundings.writingFaults directory disk none left →
      Accounted surroundings directory disk command (conclude reply left)) :
    Accounted surroundings directory disk command
      (makeCall surroundings directory disk call conclude) := by
  apply accounted_withBridge
  intro store opened isOpened
  obtain ⟨reply, after, left, performed, ⟨key, value, changes, rfl, visit⟩ | ⟨refused, visit⟩⟩ :=
    visit_of_perform surroundings.writingFaults isOpened call
  · simp only [performed]
    exact changed key value left changes visit
  · simp only [performed]
    exact unchanged reply left refused visit

theorem accounted_printReply {call : Call} (looks : call.change? = none)
    (silent : ∀ outcome, ¬ReportsWrite outcome command) :
    Accounted surroundings directory disk command
      (makeCall surroundings directory disk call printReply) := by
  apply accounted_makeCall
  · intro key value left changes _
    rw [looks] at changes
    cases changes
  · intro reply left _ visit
    exact .kept visit (silent _)

theorem accounted_reportWrite {call : Call} {printed failed : String}
    (isWrite : call.name ∈ writeOperations)
    (reports : ∀ outcome : Outcome, outcome.exitCode = some 0 → ReportsWrite outcome command)
    (writes : ∀ key value, call.change? = some (key, value) → Writes command key value) :
    Accounted surroundings directory disk command
      (makeCall surroundings directory disk call (reportWrite printed failed)) := by
  apply accounted_makeCall
  · intro key value left changes visit
    exact .written visit (writes key value changes) (.inl (reports _ rfl))
  · intro reply left refused visit
    cases refused isWrite
    exact accounted_failure _ visit

theorem visit_of_finishSelection {opening : Faults} (writing : Faults) {store : Store}
    {opened : Disk} (isOpened : Store.openIn opening directory disk = (.ok store, opened))
    (picker : Option Bridge.Picker) (pick : Bridge.Pick) :
    Visit opening writing directory disk none
        (StoredBridge.finishSelection writing ⟨store, picker⟩ pick opened).2.2 ∨
      ∃ selected,
        (StoredBridge.finishSelection writing ⟨store, picker⟩ pick opened).1 = .ok (some selected) ∧
        Visit opening writing directory disk (some (lastDirectoryKey, .string selected))
          (StoredBridge.finishSelection writing ⟨store, picker⟩ pick opened).2.2 := by
  rcases pick with error | _ | _ | ⟨byte, path⟩
  · exact .inl (.opened isOpened)
  · exact .inl (.opened isOpened)
  · exact .inl (.opened isOpened)
  · simp only [StoredBridge.finishSelection]
    cases StoredBridge.selectionText opened (byte :: path) with
    | error cause => exact .inl (.opened isOpened)
    | ok folder =>
        have visit := visit_of_persist writing isOpened picker lastDirectoryKey (.string folder)
        split at visit
        · exact .inr ⟨folder, rfl, visit⟩
        · exact .inl visit

theorem perform_selectFolder (writing : Faults) (store : Store) (picker : Bridge.Picker)
    (disk : Disk) :
    ∃ pick after, StoredBridge.perform writing .selectFolder (⟨store, some picker⟩, disk) =
      ((StoredBridge.finishSelection writing ⟨store, some after⟩ pick disk).1.map .folder,
        (StoredBridge.finishSelection writing ⟨store, some after⟩ pick disk).2) :=
  ⟨_, _, rfl⟩

theorem accounted_pickFolder :
    Accounted surroundings directory disk .pickFolder (pickFolder surroundings directory disk) := by
  have silent : ∀ outcome, ¬ReportsWrite outcome .pickFolder := fun _ reports => nomatch reports
  apply accounted_withBridge
  intro store opened isOpened
  obtain ⟨pick, after, performed⟩ := perform_selectFolder surroundings.writingFaults store
    (.onTerminal ⟨surroundings.input, "", none⟩) opened
  have visit := visit_of_finishSelection surroundings.writingFaults isOpened (some after) pick
  simp only [StoredBridge.attach, performed]
  generalize StoredBridge.finishSelection surroundings.writingFaults ⟨store, some after⟩ pick
    opened = finished at visit ⊢
  obtain ⟨error | chosen, bridge, left⟩ := finished
  · rcases visit with visit | ⟨selected, chosen, _⟩
    · exact .kept visit (silent _)
    · cases chosen
  · rcases visit with visit | ⟨selected, _, visit⟩
    · exact .kept visit (silent _)
    · exact .written visit .pickFolder (.inr ⟨rfl, rfl⟩)

/-! ## Invocations -/

theorem parseArguments_cases (texts : List String) :
    (∃ values, parseArguments texts = .ok values ∧ Denote texts values) ∨
      ∃ position, ∃ text ∈ texts, parseArguments texts = .error (position, text) ∧
        Json.read? text = none := by
  have general : ∀ first,
      (∃ values, parseArguments.go first texts = .ok values ∧ Denote texts values) ∨
        ∃ position, ∃ text ∈ texts, parseArguments.go first texts = .error (position, text) ∧
          Json.read? text = none := by
    induction texts with
    | nil => exact fun first => .inl ⟨[], rfl, .nil⟩
    | cons text rest ih =>
        intro first
        unfold parseArguments.go
        cases read : Json.read? text with
        | none => exact .inr ⟨first, text, List.mem_cons_self, rfl, read⟩
        | some value =>
            rcases ih (first + 1) with
              ⟨values, done, denote⟩ | ⟨position, other, member, failed, unread⟩
            · exact .inl ⟨value :: values, by rw [done]; rfl, .cons read denote⟩
            · have inside := List.mem_cons_of_mem text member
              exact .inr ⟨position, other, inside, by rw [failed]; rfl, unread⟩
  exact general 1

theorem Denote.read {texts : List String} {values : List Json} (denote : Denote texts values) :
    ∀ text ∈ texts, Json.read? text ≠ none := by
  induction denote with
  | nil => exact List.forall_mem_nil _
  | cons read _ ih => exact List.forall_mem_cons.mpr ⟨by rw [read]; exact Option.some_ne_none _, ih⟩

theorem accounted_callOperation (operation : String) (texts : List String) :
    Accounted surroundings directory disk (.call operation texts)
      (callOperation surroundings directory operation texts disk) := by
  unfold callOperation
  rcases parseArguments_cases texts with ⟨values, parsed, denote⟩ | ⟨position, text, _, failed, _⟩
  · simp only [parsed]
    apply accounted_withBridge
    intro store opened isOpened
    cases decoded : decodeCall operation values with
    | error error =>
        simp only [invoke_of_error decoded]
        exact accounted_failure _ (.opened isOpened)
    | ok call =>
        obtain ⟨rfl, rfl⟩ := decodeCall_eq_ok_iff.mp decoded
        simp only [invoke_of_ok decoded]
        obtain ⟨reply, after, left, performed, changed | unchanged⟩ :=
          visit_of_perform surroundings.writingFaults isOpened call
        · obtain ⟨key, value, changes, rfl, visit⟩ := changed
          simp only [performed]
          refine .written visit (.call denote changes) (.inl (.call ?_ rfl ?_))
          · exact mem_writeOperations_of_change changes
          · rfl
        · obtain ⟨refused, visit⟩ := unchanged
          simp only [performed]
          refine .kept visit fun reports => ?_
          cases reports with
          | call isWrite _ printed =>
              cases refused isWrite
              have other : renderValue (Json.bool false) ++ "\n" ≠ "true\n" := by decide
              exact absurd printed other
  · simp only [failed]
    exact accounted_failure _ .aside

theorem accounted_runStatus (configFile : Option String) :
    Accounted surroundings directory disk (.status configFile)
      (runStatus surroundings directory configFile disk) := by
  have silent : ∀ outcome, ¬ReportsWrite outcome (.status configFile) :=
    fun _ reports => nomatch reports
  unfold runStatus
  split
  · exact accounted_failure _ .aside
  · split
    · exact accounted_failure _ .aside
    · refine .kept ?_ (silent _)
      unfold StoredBridge.openIn
      rcases outcome : Store.openIn surroundings.openingFaults directory disk with
        ⟨error | store, left⟩
      · exact .opened outcome
      · exact .opened outcome

theorem accounted_runDev (overrides : Overrides) :
    Accounted surroundings directory disk (.dev overrides)
      (runDev surroundings overrides disk) := by
  refine .kept ?_ fun reports => nomatch reports
  have idle : (runDev surroundings overrides disk).disk = disk := by
    unfold runDev
    split
    · rfl
    · split
      · rfl
      · split <;> rfl
  rw [idle]
  exact .aside

theorem accounted_runCommand (command : Command) :
    Accounted surroundings directory disk command
      (runCommand surroundings directory command disk) := by
  cases command with
  | dev overrides => exact accounted_runDev overrides
  | showSession =>
      show Accounted _ _ _ _ (makeCall surroundings directory disk .getSession printReply)
      refine accounted_printReply ?_ ?_
      · rfl
      · rintro outcome ⟨⟩
  | getSetting key =>
      show Accounted _ _ _ _ (makeCall surroundings directory disk (.getSetting key) printReply)
      refine accounted_printReply ?_ ?_
      · rfl
      · rintro outcome ⟨⟩
  | saveSession host tokens =>
      show Accounted _ _ _ _ (makeCall surroundings directory disk
        (.saveSession (parseValue tokens) host) (reportWrite _ _))
      refine accounted_reportWrite (show "save_session" ∈ writeOperations by decide)
        (fun _ => .saveSession) ?_
      rintro key value ⟨⟩
      exact .saveSession
  | clearSession =>
      show Accounted _ _ _ _ (makeCall surroundings directory disk .clearSession (reportWrite _ _))
      refine accounted_reportWrite (show "clear_session" ∈ writeOperations by decide)
        (fun _ => .clearSession) ?_
      rintro key value ⟨⟩
      exact .clearSession
  | setSetting key value =>
      refine accounted_reportWrite (show "save_setting" ∈ writeOperations by decide)
        (fun _ => .setSetting) ?_
      intro name changed changes
      simp only [Call.change?, Option.ite_none_left_eq_some, Option.some.injEq,
        Prod.mk.injEq] at changes
      obtain ⟨-, rfl, rfl⟩ := changes
      exact .setSetting
  | pickFolder => exact accounted_pickFolder
  | call operation texts => exact accounted_callOperation operation texts
  | status configFile => exact accounted_runStatus configFile

/-- The data directory of a command line, by default the one in the home directory. -/
def CommandLine.directory? (line : CommandLine) (surroundings : Surroundings) : Option String :=
  line.dataDirectory <|> surroundings.home.map dataDirectoryIn

theorem Outcome.disk_unheard (outcome : Outcome) (before : Disk) :
    (outcome.unheard before).disk = before ∨ (outcome.unheard before).disk = outcome.disk := by
  unfold Outcome.unheard
  split
  · exact .inl rfl
  · split <;> exact .inr rfl

theorem Accounted.unheard {command : Command} {outcome : Outcome}
    (accounted : Accounted surroundings directory disk command outcome) :
    KeptIn surroundings.openingFaults directory disk (outcome.unheard disk).disk ∨
      ∃ key value, Writes command key value ∧
        ChangedIn surroundings.openingFaults directory disk (outcome.unheard disk).disk key value := by
  rcases outcome.disk_unheard disk with same | same
  · have visit : Visit surroundings.openingFaults surroundings.writingFaults directory disk none
        disk := .aside
    rw [same]
    exact .inl visit.kept
  · rw [same]
    cases accounted with
    | kept visit _ => exact .inl visit.kept
    | written visit writes _ => exact .inr ⟨_, _, writes, visit.changes⟩

theorem run_of_directory {line : CommandLine}
    (place : line.directory? surroundings = some directory) :
    line.run surroundings disk = runCommand surroundings directory line.command disk := by
  unfold CommandLine.directory? at place
  unfold CommandLine.run
  cases named : line.dataDirectory with
  | some other =>
      rw [named] at place
      cases place
      rfl
  | none =>
      rw [named] at place
      obtain ⟨home, known, rfl⟩ := Option.map_eq_some_iff.mp place
      rw [known]

theorem run_of_no_directory {line : CommandLine} (nowhere : line.directory? surroundings = none) :
    line.run surroundings disk = .failure (.plain "Could not determine home directory") disk := by
  unfold CommandLine.directory? at nowhere
  unfold CommandLine.run
  cases named : line.dataDirectory with
  | some directory =>
      rw [named] at nowhere
      cases nowhere
  | none =>
      rw [named] at nowhere
      rw [Option.map_eq_none_iff.mp nowhere]

/-- A setting whose file cannot be published is not reported as written, though nothing fails. -/
example :
    let line : CommandLine := ⟨some "/data", .call "save_setting" ["\"key\"", "true"]⟩
    let surroundings : Surroundings :=
      ⟨none, [], .isolated, fun _ => "", .none, .at .publish .noSpaceLeft⟩
    let outcome := line.run surroundings ⟨[(["data"], .directory 0o755)], 0o022, "/"⟩
    outcome.printed = "false\n" ∧ outcome.exitCode = some 0 := by
  decide +kernel

end WebviewHost.Cli
