import WebviewHost.Bridge.Stored
import WebviewHost.Proofs.Settings.Store

/-!
# Calls that change something

A call of a stored bridge either sets one member of the settings document, or looks at it, or opens a
folder dialog. Setting a member takes effect in the document and in the file or in neither.
-/

set_option autoImplicit false

namespace WebviewHost.Bridge

open WebviewHost.Files (Disk Faults)
open WebviewHost.Settings (SessionRecord Store fileText isReserved sessionKey)

/-- The member of the document that a call sets if it takes effect. -/
def Call.change? : Call → Option (String × Json)
  | .saveSession tokens host => some (sessionKey, SessionRecord.toStored ⟨tokens, host⟩)
  | .clearSession => some (sessionKey, .null)
  | .saveSetting key value => if isReserved key then none else some (key, value)
  | _ => none

theorem Call.change?_saveSetting {key : String} (free : isReserved key = false) (value : Json) :
    (Call.saveSetting key value).change? = some (key, value) := by
  simp [Call.change?, free]

namespace StoredBridge

def insert (bridge : StoredBridge) (key : String) (value : Json) : StoredBridge :=
  { bridge with
    store := ⟨bridge.store.path, Members.insert key value bridge.store.document⟩ }

theorem get?_insert (bridge : StoredBridge) (key other : String) (value : Json) :
    (bridge.insert key value).store.get? other =
      if other = key then some value else bridge.store.get? other :=
  Members.get?_insert key other value bridge.store.document

theorem openIn_eq_ok {faults : Faults} {directory : String} {disk opened : Disk}
    {bridge : StoredBridge} (isOpen : openIn faults directory disk = (.ok bridge, opened)) :
    Store.openIn faults directory disk = (.ok bridge.store, opened) ∧ bridge.picker = none := by
  unfold openIn at isOpen
  split at isOpen
  · rename_i store left opening
    cases isOpen
    exact ⟨opening, rfl⟩
  · cases isOpen

/-- Whether a member would reach the file, which the file system decides. -/
def lands (faults : Faults) (bridge : StoredBridge) (key : String) (value : Json) (disk : Disk) :
    Bool :=
  (Store.course faults bridge.store key value disk).failure.isNone

/-- What a write answers is what the file system has decided. -/
theorem fst_persist (faults : Faults) (bridge : StoredBridge) (key : String) (value : Json)
    (disk : Disk) :
    (bridge.persist faults key value disk).1 = bridge.lands faults key value disk := by
  unfold persist Store.set Store.save lands Store.course Store.replacement
  dsimp only
  obtain ⟨passed, final, failure⟩ := Files.Replacement.run
    ⟨bridge.store.path, fileText (Members.insert key value bridge.store.document)⟩ faults disk
  cases failure <;> rfl

/-- A write that lands changes one key of the document, and one that does not changes nothing. -/
theorem persist_cases {directory : String} {bridge : StoredBridge}
    (isOpen : bridge.store.OpenIn directory) (faults : Faults) (key : String) (value : Json)
    (disk : Disk) :
    (∃ left, bridge.persist faults key value disk = (true, bridge.insert key value, left) ∧
      Store.Holds bridge.store.path (fileText (bridge.insert key value).store.document) left) ∨
    ∃ left, bridge.persist faults key value disk = (false, bridge, left) ∧
      Store.Untouched bridge.store.path disk left := by
  have replaced := isOpen.replaced faults key value disk
  unfold persist
  rcases Store.set_eq isOpen faults key value disk with ⟨quiet, done⟩ | ⟨failure, error, failed⟩
  · rw [done]
    exact .inl ⟨_, rfl, replaced.done quiet⟩
  · rw [failed]
    exact .inr ⟨_, rfl, (replaced.failed failure).1⟩

theorem persist_of_writable {directory : String} {bridge : StoredBridge}
    (isOpen : bridge.store.OpenIn directory) {disk : Disk}
    (writable : Store.Writable directory disk) (key : String) (value : Json) :
    ∃ left, bridge.persist .none key value disk = (true, bridge.insert key value, left) ∧
      Disk.SameTree disk left ∧
      Store.Holds bridge.store.path (fileText (bridge.insert key value).store.document) left := by
  have allowed : ∀ step, Faults.none.refused step = none := fun _ => rfl
  obtain ⟨left, done, tree, holds⟩ := isOpen.set_of_writable writable allowed key value
  refine ⟨left, ?_, tree, holds⟩
  unfold persist
  rw [done]
  rfl

theorem persist_withPicker (bridge : StoredBridge) (picker : Option Picker) (faults : Faults)
    (key : String) (value : Json) (disk : Disk) :
    persist faults { bridge with picker } key value disk =
      ((bridge.persist faults key value disk).1,
        { (bridge.persist faults key value disk).2.1 with picker },
        (bridge.persist faults key value disk).2.2) := by
  unfold persist
  dsimp only
  rcases bridge.store.set faults key value disk with ⟨_ | _, store, left⟩ <;> rfl

theorem perform_of_change {call : Call} {key : String} {value : Json}
    (changes : call.change? = some (key, value)) (faults : Faults) (bridge : StoredBridge)
    (disk : Disk) :
    perform faults call (bridge, disk) =
      (.ok (.written (bridge.persist faults key value disk).1),
        (bridge.persist faults key value disk).2) := by
  cases call with
  | selectFolder => cases changes
  | getSession => cases changes
  | getSetting key => cases changes
  | saveSession tokens host =>
      cases changes
      rfl
  | clearSession =>
      cases changes
      rfl
  | saveSetting name saved =>
      simp only [Call.change?, Option.ite_none_left_eq_some, Option.some.injEq,
        Prod.mk.injEq] at changes
      obtain ⟨free, rfl, rfl⟩ := changes
      simp only [perform, if_neg free]

theorem perform_of_no_change {call : Call} (looks : call.change? = none)
    (noDialog : call ≠ .selectFolder) (faults : Faults) (state : StoredBridge × Disk) :
    (perform faults call state).2 = state := by
  cases call with
  | selectFolder => exact absurd rfl noDialog
  | getSession => rfl
  | getSetting key => rfl
  | saveSession tokens host => cases looks
  | clearSession => cases looks
  | saveSetting key value =>
      have reserved : isReserved key = true := by simpa [Call.change?] using looks
      simp only [perform, if_pos reserved]

theorem ordered_toStored {tokens : Json} (ordered : tokens.Ordered) (host : String) :
    (SessionRecord.toStored ⟨tokens, host⟩).Ordered := by
  have keys : Members.Ordered [("host", .string host), ("tokens", tokens)] := by
    unfold Members.Ordered
    simp only [List.pairwise_cons, List.mem_singleton, forall_eq, List.not_mem_nil,
      false_implies, implies_true, List.Pairwise.nil, and_true]
    decide
  exact ⟨keys, trivial, ordered, trivial⟩

end StoredBridge

end WebviewHost.Bridge
