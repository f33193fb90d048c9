import WebviewHost.Proofs.Files.Directories
import WebviewHost.Proofs.Json.RoundTrip
import WebviewHost.Proofs.Settings.Store

/-!
# Opening a store again

A store that is opened again reads its file anew. It gets back the document it had unless a value in
it is so deep that, one level further down in the document, the reader refuses the whole file; then
all that is left are the defaults.
-/

set_option autoImplicit false

namespace WebviewHost.Settings

open WebviewHost.Files

/-- A document of the reader's making whose numbers read back. -/
structure Faithful (document : Members) : Prop extends Loaded document where
  values : Json.OrderedMembers document
  numbers : Json.AllNumbersMembers Number.ReadsBack document

/-- A document that the reader takes back as a whole. -/
def Shallow (document : Members) : Prop := Json.depthMembers document < Json.depthLimit

theorem readDocument_fileText {document : Members} (faithful : Faithful document) :
    readDocument (fileText document) =
      if Json.depthMembers document < Json.depthLimit then document else defaults := by
  have read : Json.readBytes? (fileText document) =
      if (Json.object document).depth ≤ Json.depthLimit then some (.object document) else none := by
    unfold fileText
    rw [Json.readBytes?_toUTF8]
    exact Json.read?_pretty ⟨faithful.ordered, faithful.values⟩ faithful.numbers
  unfold readDocument
  rw [read]
  by_cases shallow : Json.depthMembers document < Json.depthLimit
  · rw [if_pos shallow, if_pos (show (Json.object document).depth ≤ _ from shallow)]
    exact withDefaults_eq_self faithful.ordered faithful.complete
  · rw [if_neg shallow, if_neg (show ¬(Json.object document).depth ≤ _ from shallow)]

/-- A faithful document is read back exactly if it is shallow. -/
theorem readDocument_fileText_eq_iff {document : Members} (faithful : Faithful document) :
    readDocument (fileText document) = document ↔ Shallow document := by
  rw [readDocument_fileText faithful]
  unfold Shallow
  constructor
  · intro same
    split at same
    · assumption
    · -- The defaults, which stand for a document that is too deep, are shallow themselves.
      rw [← same]
      decide
  · intro shallow
    exact if_pos shallow

theorem Faithful.insert {document : Members} (faithful : Faithful document) (key : String)
    {value : Json} (ordered : value.Ordered) (numbers : value.AllNumbers Number.ReadsBack) :
    Faithful (Members.insert key value document) := by
  refine ⟨faithful.toLoaded.insert key value, ?_, ?_⟩
  · refine Json.orderedMembers_iff.mpr fun entry member => ?_
    rcases Members.mem_insert member with rfl | before
    · exact ordered
    · exact Json.orderedMembers_iff.mp faithful.values entry before
  · refine Json.allNumbersMembers_iff.mpr fun entry member => ?_
    rcases Members.mem_insert member with rfl | before
    · exact numbers
    · exact Json.allNumbersMembers_iff.mp faithful.numbers entry before

/-- A member of the object that is read from the text of a document is one of the document that
the text stands for. -/
theorem get?_readDocument_fileText {document : Members} {value found : Json} {key : String}
    (read : Json.read? (Json.pretty (.object document)) = some value)
    (member : value.member? key = some found) :
    Members.get? (readDocument (fileText document)) key = some found := by
  cases value with
  | object members =>
      have bytes : Json.readBytes? (fileText document) = some (.object members) := by
        unfold fileText
        rw [Json.readBytes?_toUTF8, read]
      have held : Members.get? members key = some found := member
      unfold readDocument
      rw [bytes]
      dsimp only
      rw [get?_withDefaults, held]
      rfl
  | _ => cases member

theorem Shallow.insert {document : Members} (shallow : Shallow document) (key : String)
    {value : Json} (flat : value.depth < Json.depthLimit) :
    Shallow (Members.insert key value document) := by
  refine Nat.lt_of_le_of_lt (Json.depthMembers_le_iff.mpr fun entry member => ?_)
    (show Json.depthLimit - 1 < Json.depthLimit by decide)
  rcases Members.mem_insert member with rfl | before
  · exact Nat.le_pred_of_lt flat
  · exact Nat.le_pred_of_lt
      (Nat.lt_of_le_of_lt (Json.depthMembers_le_iff.mp (Nat.le_refl _) entry before) shallow)

theorem accepted_default : ∀ entry ∈ defaults, Json.Accepted 0 entry.2 := by
  intro entry member
  unfold defaults at member
  simp only [List.mem_cons, List.not_mem_nil, or_false] at member
  rcases member with rfl | rfl | rfl | rfl | rfl | rfl <;> exact ⟨trivial, Nat.le_refl 0, trivial⟩

theorem exact_defaults : Json.AllNumbersMembers Number.Exact defaults := by
  simp [defaults, Json.AllNumbersMembers, Json.AllNumbers]

theorem accepted_readDocument (content : ByteArray) :
    ∀ entry ∈ readDocument content, Json.Accepted (Json.depthLimit - 1) entry.2 := by
  intro entry member
  rcases readDocument_cases content with ⟨document, read, same⟩ | same
  · have accepted := Json.accepted_of_readBytes? read
    rw [same] at member
    rcases mem_withDefaults accepted.ordered.1 member with own | default
    · exact ⟨Json.orderedMembers_iff.mp accepted.ordered.2 entry own,
        Json.depthMembers_le_iff.mp (Nat.le_of_succ_le_succ accepted.shallow) entry own,
        Json.allNumbersMembers_iff.mp accepted.numbers entry own⟩
    · exact (accepted_default entry default).mono (Nat.zero_le _)
  · rw [same] at member
    exact (accepted_default entry member).mono (Nat.zero_le _)

/-- Loaded values are shallow, and the document is faithful if their doubles read back. -/
theorem faithful_of_accepted {document : Members} (loaded : Loaded document)
    (each : ∀ entry ∈ document, Json.Accepted (Json.depthLimit - 1) entry.2)
    (doubles : Json.AllNumbersMembers Number.Exact document) :
    Faithful document ∧ Shallow document := by
  refine ⟨⟨loaded, ?_, ?_⟩, ?_⟩
  · exact Json.orderedMembers_iff.mpr fun entry member => (each entry member).ordered
  · exact Json.allNumbersMembers_iff.mpr fun entry member =>
      (each entry member).readsBack (Json.allNumbersMembers_iff.mp doubles entry member)
  · exact Nat.lt_of_le_pred (by decide)
      (Json.depthMembers_le_iff.mpr fun entry member => (each entry member).shallow)

theorem readDocument_defaults : readDocument (fileText defaults) = defaults := by
  have each : ∀ entry ∈ defaults, Json.Accepted (Json.depthLimit - 1) entry.2 :=
    fun entry member => (accepted_default entry member).mono (Nat.zero_le _)
  rw [readDocument_fileText (faithful_of_accepted loaded_defaults each exact_defaults).1, ite_self]

/-! ## Opening again -/

namespace Store

/-- A store that gets back its document, and changes nothing, when its directory is opened again. -/
structure Settled (directory : String) (store : Store) (disk : Disk) : Prop where
  isOpen : store.OpenIn directory
  made : ∀ later, Disk.Grows disk later → later.makeDirectories directory = .ok later
  file : ∃ content, Holds store.path content disk ∧ readDocument content = store.document

theorem openIn_of_holds {directory : String} {disk : Disk} {content : ByteArray}
    (made : disk.makeDirectories directory = .ok disk)
    (holds : Holds (joinPath directory settingsFile) content disk) :
    Store.openIn .none directory disk =
      (.ok ⟨joinPath directory settingsFile, readDocument content⟩, disk) := by
  have tried : disk.tryDirectories Faults.none.unmade directory = (.ok (), disk) :=
    Disk.makeDirectories_eq_ok_iff.mp made
  have read : disk.tryReadFile Faults.none.unread (joinPath directory settingsFile) = .ok content :=
    Disk.tryReadFile_eq_ok_iff.mpr ⟨rfl, holds⟩
  unfold Store.openIn
  simp only [tried, read]

theorem Settled.openIn_eq {directory : String} {store : Store} {disk : Disk}
    (settled : Settled directory store disk) :
    Store.openIn .none directory disk = (.ok store, disk) := by
  obtain ⟨content, holds, document⟩ := settled.file
  rw [settled.isOpen.path] at holds
  rw [openIn_of_holds (settled.made disk (.refl disk)) holds, document, ← settled.isOpen.path]

theorem Settled.set {directory : String} {store : Store} {disk : Disk}
    (settled : Settled directory store disk) (faults : Faults) (key : String) (value : Json)
    (read : readDocument (fileText (Members.insert key value store.document)) =
      Members.insert key value store.document) :
    Settled directory (store.set faults key value disk).2.1
      (store.set faults key value disk).2.2 := by
  have replaced := settled.isOpen.replaced faults key value disk
  have grows := replaced.tree.grows
  rcases set_eq settled.isOpen faults key value disk with ⟨quiet, done⟩ | ⟨failure, error, failed⟩
  · rw [done]
    exact ⟨settled.isOpen.insert key value,
      fun later more => settled.made later (grows.trans more), _, replaced.done quiet, read⟩
  · rw [failed]
    obtain ⟨content, found, document⟩ := settled.file
    have still : Holds store.path content _ :=
      Holds.of_untouched found (replaced.failed failure).1
    exact ⟨settled.isOpen, fun later more => settled.made later (grows.trans more), content, still,
      document⟩

/-- A store that has just been opened is settled, and its values were read or are defaults. -/
theorem settled_of_openIn {faults : Faults} {directory : String} {disk opened : Disk} {store : Store}
    (isOpen : Store.openIn faults directory disk = (.ok store, opened)) :
    Settled directory store opened ∧
      ∀ entry ∈ store.document, Json.Accepted (Json.depthLimit - 1) entry.2 := by
  have stored := openIn_of_openIn isOpen
  have again : ∀ {middle : Disk}, disk.tryDirectories faults.unmade directory = (.ok (), middle) →
      ∀ later, Disk.Grows middle later → later.makeDirectories directory = .ok later :=
    fun tried later grows =>
      Disk.makeDirectories_eq_ok_iff.mpr (Disk.tryDirectories_again tried grows)
  have opening := opening_openIn faults directory disk
  rw [isOpen] at opening
  cases opening with
  | @loaded content _ tried read =>
      have held := (Disk.tryReadFile_eq_ok_iff.mp read).2
      exact ⟨⟨stored, again tried, content, held, rfl⟩, accepted_readDocument content⟩
  | @created middle tried _ written =>
      have replaced := replaced_settingsFile directory (fileText defaults) faults middle
      have each : ∀ entry ∈ defaults, Json.Accepted (Json.depthLimit - 1) entry.2 :=
        fun entry member => (accepted_default entry member).mono (Nat.zero_le _)
      exact ⟨⟨stored, fun later grows => again tried later (replaced.tree.grows.trans grows),
        _, replaced.done written, readDocument_defaults⟩, each⟩

end Store

end WebviewHost.Settings
