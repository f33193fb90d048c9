import WebviewHost.Proofs.Cli.Reporting
import WebviewHost.Proofs.Cli.Value
import WebviewHost.Proofs.Settings.Reload

/-!
# Feeding back what was printed

What a command prints of a value can be given to a command that stores one, and means the same
there. A text that denotes nothing, and only such a text, is stored as a string.
-/

set_option autoImplicit false

namespace WebviewHost.Cli

open WebviewHost.Bridge (Call Reply StoredBridge)
open WebviewHost.Files (Disk)
open WebviewHost.Settings (SessionRecord Store fileText sessionKey)
open WebviewHost.Settings.Store (ChangedIn)

/-! ## What is stored and what is printed -/

/-- After a command line the settings file holds the document that opening yielded with one member
replaced. -/
def Stores (line : CommandLine) (surroundings : Surroundings) (disk : Disk) (key : String)
    (value : Json) : Prop :=
  ∃ directory, line.directory? surroundings = some directory ∧
    ChangedIn surroundings.openingFaults directory disk (line.run surroundings disk).disk key value

/-- A text is taken for a value, which is what the commands that are given the text store if they
succeed. -/
structure TakenAs (text : String) (value : Json) : Prop where
  parsed : parseValue text = value
  setting : ∀ (dataDirectory : Option String) (key : String) (surroundings : Surroundings)
    (disk : Disk), let line : CommandLine := ⟨dataDirectory, .setSetting key text⟩
    (line.run surroundings disk).exitCode = some 0 → Stores line surroundings disk key value
  session : ∀ (dataDirectory : Option String) (host : String) (surroundings : Surroundings)
    (disk : Disk), let line : CommandLine := ⟨dataDirectory, .saveSession host text⟩
    (line.run surroundings disk).exitCode = some 0 →
    Stores line surroundings disk sessionKey (SessionRecord.toStored ⟨value, host⟩)

/-- The value of a settings document that a command prints. -/
inductive Shows (document : Members) : Command → Json → Prop where
  | setting {key : String} :
      Shows document (.getSetting key) (.ofOption (Members.get? document key))
  | session :
      Shows document .showSession (.ofOption
        (((Members.get? document sessionKey).bind SessionRecord.ofStored?).map (·.tokens)))

/-- What a text is taken for: the value that it denotes, and itself only if it denotes nothing. -/
structure ReadsText (text : String) : Prop where
  taken : TakenAs text (parseValue text)
  means : Means text (parseValue text)
  plain : parseValue text = .string text ↔ ∀ value, ¬Json.Denotes text value

/-- What is printed of a value denotes it and is taken for it, with or without the line break that
ends it, unless the value is too deep. Values that are read from settings never are. -/
structure FeedsBack (value : Json) : Prop where
  denotes : value.Ordered → value.depth ≤ Json.depthLimit → Json.Denotes (renderValue value) value
  taken : value.Ordered → (TakenAs (renderValue value) value ↔ value.depth ≤ Json.depthLimit)
  printed : ∀ {line : CommandLine} {surroundings : Surroundings} {directory : String}
    {disk opened : Disk} {store : Store}, line.directory? surroundings = some directory →
    Store.openIn surroundings.openingFaults directory disk = (.ok store, opened) →
    Shows store.document line.command value →
    line.run surroundings disk = .success (renderValue value ++ "\n") opened ∧
      TakenAs (renderValue value) value ∧ TakenAs (renderValue value ++ "\n") value

/-! ## Storing -/

variable {surroundings : Surroundings} {directory : String} {disk opened : Disk} {store : Store}
  {line : CommandLine} {command : Command} {text : String} {value : Json}

theorem stores_of_reports {key : String}
    (reports : ReportsWrite (line.run surroundings disk) line.command)
    (writes : ∀ other changed, Writes line.command other changed → other = key ∧ changed = value) :
    Stores line surroundings disk key value := by
  cases place : line.directory? surroundings with
  | none =>
      have exit := reports.exitCode
      rw [run_of_no_directory place] at exit
      cases exit
  | some directory =>
      have accounted : Accounted surroundings directory disk line.command
          (line.run surroundings disk) :=
        run_of_directory place ▸ accounted_runCommand line.command
      cases accounted with
      | kept _ silent => exact absurd reports silent
      | written visit told _ =>
          obtain ⟨rfl, rfl⟩ := writes _ _ told
          exact ⟨directory, place, visit.changes⟩

theorem takenAs_parseValue (text : String) : TakenAs text (parseValue text) := by
  refine ⟨rfl, ?_, ?_⟩
  · intro dataDirectory key surroundings disk line success
    refine stores_of_reports (.setSetting success) ?_
    rintro _ _ ⟨⟩
    exact ⟨rfl, rfl⟩
  · intro dataDirectory host surroundings disk line success
    refine stores_of_reports (.saveSession success) ?_
    rintro _ _ ⟨⟩
    exact ⟨rfl, rfl⟩

theorem takenAs_iff : TakenAs text value ↔ Means text value := by
  rw [← parseValue_eq_iff]
  constructor
  · exact TakenAs.parsed
  · rintro rfl
    exact takenAs_parseValue text

theorem takenAs_of_denotes (denotes : Json.Denotes text value) : TakenAs text value :=
  takenAs_iff.mpr (.value denotes)

/-! ## Printing -/

theorem makeCall_of_opened {call : Call} {reply : Reply} {after : StoredBridge} {left : Disk}
    (isOpened : Store.openIn surroundings.openingFaults directory disk = (.ok store, opened))
    (performed : StoredBridge.perform surroundings.writingFaults call (⟨store, none⟩, opened) =
      (.ok reply, after, left)) (conclude : Reply → Disk → Outcome) :
    makeCall surroundings directory disk call conclude = conclude reply left := by
  unfold makeCall withBridge StoredBridge.openIn
  simp only [isOpened, performed]

theorem runCommand_of_shows
    (isOpened : Store.openIn surroundings.openingFaults directory disk = (.ok store, opened))
    (shows : Shows store.document command value) :
    runCommand surroundings directory command disk =
      .success (renderValue value ++ "\n") opened := by
  let bridge : StoredBridge := ⟨store, none⟩
  cases shows with
  | @setting key =>
      have answers : StoredBridge.perform surroundings.writingFaults (.getSetting key)
          (bridge, opened) = (.ok (.value (store.get? key)), bridge, opened) := rfl
      exact makeCall_of_opened isOpened answers printReply
  | session =>
      have answers : StoredBridge.perform surroundings.writingFaults .getSession (bridge, opened) =
          (.ok (.value (bridge.sessionRecord.map (·.tokens))), bridge, opened) := rfl
      exact makeCall_of_opened isOpened answers printReply

theorem tokens_of_ofStored? {stored : Json} {record : SessionRecord}
    (isRecord : SessionRecord.ofStored? stored = some record) :
    stored.member? "tokens" = some record.tokens := by
  unfold SessionRecord.ofStored? at isRecord
  split at isRecord
  · cases isRecord
  · rename_i tokens found
    cases isRecord
    exact found

/-- A value that is printed comes out of a settings file or out of the defaults. -/
theorem accepted_of_shows
    (isOpened : Store.openIn surroundings.openingFaults directory disk = (.ok store, opened))
    (shows : Shows store.document command value) :
    Json.Accepted (Json.depthLimit - 1) value := by
  have each := (Store.settled_of_openIn isOpened).2
  cases shows with
  | setting =>
      refine Json.accepted_ofOption fun found held => ?_
      exact each _ (Members.mem_of_get?_eq_some held)
  | session =>
      refine Json.accepted_ofOption fun tokens held => ?_
      obtain ⟨record, isSession, rfl⟩ := Option.map_eq_some_iff.mp held
      obtain ⟨stored, member, isRecord⟩ := Option.bind_eq_some_iff.mp isSession
      have accepted := each _ (Members.mem_of_get?_eq_some member)
      exact accepted.member? (tokens_of_ofStored? isRecord)

theorem commandLine_feedsBack (text : String) {value : Json}
    (numbers : value.AllNumbers Number.ReadsBack) : ReadsText text ∧ FeedsBack value := by
  have reads : ReadsText text :=
    ⟨takenAs_parseValue text, means_parseValue text, parseValue_eq_text_iff⟩
  refine ⟨reads, ?_, ?_, ?_⟩
  · intro ordered shallow
    exact denotes_renderValue ordered numbers shallow
  · intro ordered
    rw [takenAs_iff]
    exact means_renderValue_iff ordered numbers
  · intro line surroundings directory disk opened store place isOpened shows
    have accepted := accepted_of_shows isOpened shows
    have shallow : value.depth ≤ Json.depthLimit :=
      Nat.le_trans accepted.shallow (Nat.sub_le _ _)
    have denotes := denotes_renderValue accepted.ordered numbers shallow
    refine ⟨?_, takenAs_of_denotes denotes, takenAs_of_denotes (denotes_line denotes)⟩
    rw [run_of_directory place]
    exact runCommand_of_shows isOpened shows

/-- Strings that look like other values, such values, and what is empty. -/
def lookalikes : Json :=
  .object [("empty", .array [.array [], .object [], .string ""]),
    ("strings", .array [.string "42", .string "null", .string "\x7b\x7d", .string "\"quoted\""]),
    ("values", .array [.number (.integer 42), .null, .bool true])]

theorem lookalikes_feedBack :
    lookalikes.AllNumbers Number.ReadsBack ∧ lookalikes.Ordered ∧
      TakenAs (renderValue lookalikes) lookalikes ∧
      TakenAs "\x7bbroken" (parseValue "\x7bbroken") := by
  have number : (Number.integer 42).ReadsBack :=
    Number.readsBack_integer (by decide) (by decide)
  have numbers : lookalikes.AllNumbers Number.ReadsBack := by
    simp only [lookalikes, Json.AllNumbers, Json.AllNumbersItems, Json.AllNumbersMembers, number,
      and_self]
  have ordered : lookalikes.Ordered := by
    simp only [lookalikes, Json.Ordered, Json.OrderedItems, Json.OrderedMembers, Members.Ordered,
      List.pairwise_cons, List.Pairwise.nil, List.forall_mem_cons, List.not_mem_nil, false_implies,
      implies_true, and_true]
    decide
  obtain ⟨reads, feeds⟩ := commandLine_feedsBack "\x7bbroken" numbers
  exact ⟨numbers, ordered, (feeds.taken ordered).mpr (by decide), reads.taken⟩

end WebviewHost.Cli
