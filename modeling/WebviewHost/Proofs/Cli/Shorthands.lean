import WebviewHost.Proofs.Cli.Reporting
import WebviewHost.Proofs.Cli.Value
import WebviewHost.Proofs.Json.Strings

/-!
# Shorthands for calls

The commands for settings and the session are shorthands for calls. One that looks comes to the same
end as its call. One that writes leaves the same disk, and where the call prints whether it has
written, it succeeds or fails.
-/

set_option autoImplicit false

namespace WebviewHost.Cli

open WebviewHost.Bridge (Call StoredBridge decodeCall decodeCall_eq_ok_iff invoke_of_ok)
open WebviewHost.Files (Disk)

/-- The outcome of a write by a shorthand and that of its call, which tells by what it prints
whether it has written. -/
structure WritesAlike (shorthand call : Outcome) : Prop where
  disk : shorthand.disk = call.disk
  success : shorthand.exitCode = some 0 ↔ call.printed = "true\n"

/-- Every shorthand against its call, by the outcomes of commands. A call takes JSON texts, that is,
texts that denote a value. Where it takes a string, any text of that string will do, and the compact
one is such a text. -/
structure ShorthandsAgree (outcome : Command → Outcome) : Prop where
  quoted : ∀ text, Json.Denotes (Json.string text).compact (.string text)
  showSession : outcome .showSession = outcome (.call "get_session" [])
  getSetting : ∀ {key quotedKey : String}, Json.Denotes quotedKey (.string key) →
    outcome (.getSetting key) = outcome (.call "get_setting" [quotedKey])
  setSetting : ∀ {key quotedKey raw : String} {value : Json},
    Json.Denotes quotedKey (.string key) → Json.Denotes raw value →
    WritesAlike (outcome (.setSetting key raw)) (outcome (.call "save_setting" [quotedKey, raw]))
  saveSession : ∀ {host quotedHost raw : String} {tokens : Json},
    Json.Denotes quotedHost (.string host) → Json.Denotes raw tokens →
    WritesAlike (outcome (.saveSession host raw))
      (outcome (.call "save_session" [raw, quotedHost]))
  clearSession : WritesAlike (outcome .clearSession) (outcome (.call "clear_session" []))

variable {surroundings : Surroundings} {directory : String} {disk : Disk}

theorem writesAlike_failure (failure : Failure) (left : Disk) :
    WritesAlike (.failure failure left) (.failure failure left) := by
  refine ⟨rfl, fun success => ?_, fun printed => ?_⟩
  · cases success
  · exact absurd printed (show "" ≠ "true\n" by decide)

/-! ## Calls -/

theorem Denote.parseArguments {texts : List String} {values : List Json}
    (denote : Denote texts values) : parseArguments texts = .ok values := by
  have general : ∀ first, parseArguments.go first texts = .ok values := by
    induction denote with
    | nil => exact fun _ => rfl
    | cons read _ ih =>
        intro first
        simp only [parseArguments.go, read, ih, Except.map]
  exact general 1

/-- A call whose arguments are denoted by texts is made, and its reply is printed. -/
theorem callOperation_of_denote {call : Call} {texts : List String}
    (denote : Denote texts call.arguments) :
    callOperation surroundings directory call.name texts disk =
      makeCall surroundings directory disk call printReply := by
  have decoded : decodeCall call.name call.arguments = .ok call :=
    decodeCall_eq_ok_iff.mpr ⟨rfl, rfl⟩
  unfold callOperation makeCall
  rw [denote.parseArguments]
  dsimp only
  congr 1
  funext bridge opened
  rw [invoke_of_ok decoded]
  rcases StoredBridge.perform surroundings.writingFaults call (bridge, opened) with
    ⟨error | reply, after, left⟩ <;> rfl

/-! ## Writes -/

theorem exists_written {call : Call} (isWrite : call.name ∈ writeOperations)
    (faults : Files.Faults) (state : StoredBridge × Disk) :
    ∃ done after, StoredBridge.perform faults call state = (.ok (.written done), after) := by
  cases call with
  | selectFolder => exact absurd isWrite (show "select_folder" ∉ writeOperations by decide)
  | getSession => exact absurd isWrite (show "get_session" ∉ writeOperations by decide)
  | getSetting key => exact absurd isWrite (show "get_setting" ∉ writeOperations by decide)
  | saveSession tokens host => exact ⟨_, _, rfl⟩
  | clearSession => exact ⟨_, _, rfl⟩
  | saveSetting key value =>
      by_cases reserved : Settings.isReserved key = true
      · exact ⟨false, state, by simp only [StoredBridge.perform, if_pos reserved]⟩
      · exact ⟨_, _, by simp only [StoredBridge.perform, if_neg reserved]; rfl⟩

theorem writesAlike_makeCall {call : Call} (isWrite : call.name ∈ writeOperations)
    (printed failed : String) :
    WritesAlike (makeCall surroundings directory disk call (reportWrite printed failed))
      (makeCall surroundings directory disk call printReply) := by
  unfold makeCall withBridge
  rcases StoredBridge.openIn surroundings.openingFaults directory disk with ⟨error | bridge, opened⟩
  · exact writesAlike_failure _ opened
  · obtain ⟨done, ⟨after, left⟩, performed⟩ :=
      exists_written isWrite surroundings.writingFaults (bridge, opened)
    simp only [performed]
    cases done with
    | true =>
        have shown : renderValue (.bool true) ++ "\n" = "true\n" := by decide
        exact ⟨rfl, fun _ => shown, fun _ => rfl⟩
    | false =>
        refine ⟨rfl, fun success => ?_, fun shown => ?_⟩
        · cases success
        · exact absurd shown (show renderValue (.bool false) ++ "\n" ≠ "true\n" by decide)

/-! ## Command lines -/

/-- What relates two commands in every data directory, and a failure to itself, relates command
lines, which may have no data directory. -/
theorem run_related {Related : Outcome → Outcome → Prop} {first second : Command}
    (same : ∀ failure, Related (.failure failure disk) (.failure failure disk))
    (inside : ∀ directory, Related (runCommand surroundings directory first disk)
      (runCommand surroundings directory second disk)) (dataDirectory : Option String) :
    Related (CommandLine.run ⟨dataDirectory, first⟩ surroundings disk)
      (CommandLine.run ⟨dataDirectory, second⟩ surroundings disk) := by
  unfold CommandLine.run
  cases dataDirectory with
  | some directory => exact inside directory
  | none =>
      cases surroundings.home with
      | some home => exact inside (dataDirectoryIn home)
      | none => exact same _

theorem run_look {shorthand : Command} {call : Call} {texts : List String}
    (denote : Denote texts call.arguments)
    (isCall : ∀ directory, runCommand surroundings directory shorthand disk =
      makeCall surroundings directory disk call printReply) (dataDirectory : Option String) :
    CommandLine.run ⟨dataDirectory, shorthand⟩ surroundings disk =
      CommandLine.run ⟨dataDirectory, .call call.name texts⟩ surroundings disk := by
  refine run_related (fun _ => rfl) (fun directory => ?_) dataDirectory
  exact (isCall directory).trans (callOperation_of_denote denote).symm

theorem run_write {shorthand : Command} {call : Call} {texts : List String}
    {printed failed : String} (denote : Denote texts call.arguments)
    (isWrite : call.name ∈ writeOperations)
    (isCall : ∀ directory, runCommand surroundings directory shorthand disk =
      makeCall surroundings directory disk call (reportWrite printed failed))
    (dataDirectory : Option String) :
    WritesAlike (CommandLine.run ⟨dataDirectory, shorthand⟩ surroundings disk)
      (CommandLine.run ⟨dataDirectory, .call call.name texts⟩ surroundings disk) := by
  refine run_related (fun failure => writesAlike_failure failure disk) (fun directory => ?_)
    dataDirectory
  have made : runCommand surroundings directory (.call call.name texts) disk =
      makeCall surroundings directory disk call printReply := callOperation_of_denote denote
  rw [isCall, made]
  exact writesAlike_makeCall isWrite printed failed

theorem Denote.cons_of_denotes {text : String} {value : Json} {texts : List String}
    {values : List Json} (denotes : Json.Denotes text value) (others : Denote texts values) :
    Denote (text :: texts) (value :: values) :=
  .cons (Json.read?_eq_some_iff.mpr denotes) others

theorem run_shorthandsAgree (dataDirectory : Option String) (surroundings : Surroundings)
    (disk : Disk) :
    ShorthandsAgree fun command => CommandLine.run ⟨dataDirectory, command⟩ surroundings disk where
  quoted := Json.denotes_compact_string
  showSession := by
    have denote : Denote [] Call.getSession.arguments := .nil
    exact run_look denote (fun _ => rfl) dataDirectory
  getSetting key := by
    have denote : Denote [_] (Call.getSetting _).arguments := .cons_of_denotes key .nil
    exact run_look denote (fun _ => rfl) dataDirectory
  setSetting key raw := by
    obtain rfl := parseValue_of_denotes raw
    have denote : Denote [_, _] (Call.saveSetting _ _).arguments :=
      .cons_of_denotes key (.cons_of_denotes raw .nil)
    have isWrite : "save_setting" ∈ writeOperations := by decide
    exact run_write denote isWrite (fun _ => rfl) dataDirectory
  saveSession host raw := by
    obtain rfl := parseValue_of_denotes raw
    have denote : Denote [_, _] (Call.saveSession _ _).arguments :=
      .cons_of_denotes raw (.cons_of_denotes host .nil)
    have isWrite : "save_session" ∈ writeOperations := by decide
    exact run_write denote isWrite (fun _ => rfl) dataDirectory
  clearSession := by
    have denote : Denote [] Call.clearSession.arguments := .nil
    have isWrite : "clear_session" ∈ writeOperations := by decide
    exact run_write denote isWrite (fun _ => rfl) dataDirectory

end WebviewHost.Cli
