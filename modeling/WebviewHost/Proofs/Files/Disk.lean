import WebviewHost.Proofs.Files.Path

/-!
# Changes of a file tree

What a change at one place leaves as it was. Where a path leads depends on the directories alone, so
as long as only files come and go, every path that led somewhere still leads there.
-/

set_option autoImplicit false

namespace WebviewHost.Files.Disk

/-! ## Entries -/

theorem entry?_put (disk : Disk) {place : Place} (below : place ≠ []) (entry : Entry)
    (other : Place) :
    Disk.entry? (disk.put place entry) other = if other = place then some entry else disk.entry? other := by
  by_cases same : other = place
  · subst same
    simp [ entry?, put, below]
  · have skipped : ∀ found : Place × Entry, (found.1 ≠ place ∧ found.1 = other) ↔ found.1 = other :=
      fun found => ⟨And.right, fun here => ⟨fun there => same (here.symm.trans there), here⟩⟩
    simp [ entry?, put, same, Ne.symm same, List.find?_filter, skipped]

theorem entry?_drop (disk : Disk) {place : Place} (below : place ≠ []) (other : Place) :
    Disk.entry? (disk.drop place) other = if other = place then none else disk.entry? other := by
  by_cases same : other = place
  · subst same
    simp [ entry?, drop, below, List.find?_filter]
  · have skipped : ∀ found : Place × Entry, (found.1 ≠ place ∧ found.1 = other) ↔ found.1 = other :=
      fun found => ⟨And.right, fun here => ⟨fun there => same (here.symm.trans there), here⟩⟩
    simp [ entry?, drop, same, List.find?_filter, skipped]

/-- Whether there is a directory at a place. -/
def holdsDirectory (disk : Disk) (place : Place) : Bool :=
  match disk.entry? place with
  | some (.directory _) => true
  | _ => false

theorem holdsDirectory_eq_true_iff {disk : Disk} {place : Place} :
    disk.holdsDirectory place = true ↔ ∃ mode, disk.entry? place = some (.directory mode) := by
  unfold holdsDirectory
  split <;> simp_all

theorem ne_nil_of_not_holdsDirectory {disk : Disk} {place : Place}
    (other : disk.holdsDirectory place = false) : place ≠ [] := by
  intro root
  subst root
  cases other

/-! ## Paths and directories -/

/-- Whatever was a directory still is one, seen from the same working directory. -/
structure Grows (before after : Disk) : Prop where
  directories : ∀ place, before.holdsDirectory place = true → after.holdsDirectory place = true
  workingDirectory : after.workingDirectory = before.workingDirectory

namespace Grows

variable {before middle after : Disk}

theorem refl (disk : Disk) : Grows disk disk := ⟨fun _ there => there, rfl⟩

theorem trans (first : Grows before middle) (second : Grows middle after) : Grows before after :=
  ⟨fun place there => second.directories place (first.directories place there),
    second.workingDirectory.trans first.workingDirectory⟩

theorem startOf (grows : Grows before after) (path : String) :
    after.startOf path = before.startOf path := by
  unfold Disk.startOf workingPlace
  rw [grows.workingDirectory]

theorem step_ok (grows : Grows before after) {here there : Place} {name : String}
    (reached : before.step here name = .ok there) : after.step here name = .ok there := by
  unfold step at reached ⊢
  cases found : before.entry? here with
  | none => simp [found] at reached
  | some entry =>
      cases entry with
      | file mode content => simp [found] at reached
      | directory mode =>
          have directory : after.holdsDirectory here = true :=
            grows.directories here (holdsDirectory_eq_true_iff.mpr ⟨mode, found⟩)
          obtain ⟨other, still⟩ := holdsDirectory_eq_true_iff.mp directory
          simpa [still, found] using reached

theorem follow_ok (grows : Grows before after) {here there : Place} {names : List String}
    (reached : before.follow here names = .ok there) : after.follow here names = .ok there := by
  induction names generalizing here with
  | nil => exact reached
  | cons name rest ih =>
      unfold follow at reached ⊢
      rw [List.foldlM_cons] at reached ⊢
      cases moved : before.step here name with
      | error cause => simp [moved, bind, Except.bind] at reached
      | ok next =>
          rw [moved] at reached
          rw [grows.step_ok moved]
          exact ih reached

end Grows

/-- Two file trees with the same directories, seen from the same working directory. -/
structure SameTree (before after : Disk) : Prop where
  directories : ∀ place, after.holdsDirectory place = before.holdsDirectory place
  workingDirectory : after.workingDirectory = before.workingDirectory

namespace SameTree

variable {before middle after : Disk}

theorem refl (disk : Disk) : SameTree disk disk := ⟨fun _ => rfl, rfl⟩

theorem trans (first : SameTree before middle) (second : SameTree middle after) :
    SameTree before after :=
  ⟨fun place => (second.directories place).trans (first.directories place),
    second.workingDirectory.trans first.workingDirectory⟩

theorem symm (same : SameTree before after) : SameTree after before :=
  ⟨fun place => (same.directories place).symm, same.workingDirectory.symm⟩

theorem grows (same : SameTree before after) : Grows before after :=
  ⟨fun place there => (same.directories place).trans there, same.workingDirectory⟩

end SameTree

theorem follow_append (disk : Disk) (here : Place) (names : List String) (name : String) :
    disk.follow here (names ++ [name]) =
      (do let there ← disk.follow here names; disk.step there name) := by
  unfold follow
  rw [List.foldlM_append]
  simp [List.foldlM_cons]

/-- The last check of a path only concerns paths that end in a slash. -/
theorem locate_of_not_endsInSlash (disk : Disk) {path : String}
    (open_ : endsInSlash path = false) :
    disk.locate path =
      if path.isEmpty then .error .notFound
      else if path.toList.contains '\x00' then .error .nulInPath
      else if pathLimit ≤ path.utf8ByteSize then .error .nameTooLong
      else disk.follow (disk.startOf path) (pathNames path) := by
  unfold locate
  split
  · rfl
  · split
    · rfl
    · split
      · rfl
      · cases disk.follow (disk.startOf path) (pathNames path) with
        | error cause => rfl
        | ok place =>
            simp only [bind, Except.bind, open_, Bool.false_eq_true, if_false]
            split <;> rfl

theorem Grows.locate_ok {before after : Disk} (grows : Grows before after) {path : String}
    {place : Place} (open_ : endsInSlash path = false)
    (reached : before.locate path = .ok place) : after.locate path = .ok place := by
  rw [locate_of_not_endsInSlash _ open_] at reached ⊢
  split at reached
  · cases reached
  · split at reached
    · cases reached
    · split at reached
      · cases reached
      · rw [if_neg (by assumption), if_neg (by assumption), if_neg (by assumption), grows.startOf]
        exact grows.follow_ok reached

theorem SameTree.locate_ok {before after : Disk} (same : SameTree before after) {path : String}
    {place : Place} (open_ : endsInSlash path = false)
    (reached : before.locate path = .ok place) : after.locate path = .ok place :=
  same.grows.locate_ok open_ reached

theorem locate_joinPath_eq_ok_iff (disk : Disk) (directory : String) {name : String}
    (plain : PlainName name) {place : Place} :
    disk.locate (joinPath directory name) = .ok place ↔
      '\x00' ∉ (joinPath directory name).toList ∧
        (joinPath directory name).utf8ByteSize < pathLimit ∧
        name.utf8ByteSize ≤ longestName ∧
        ∃ here, disk.follow (disk.startOf directory) (pathNames directory) = .ok here ∧
          disk.holdsDirectory here = true ∧ place = here ++ [name] := by
  have named : (joinPath directory name).isEmpty = false := by
    have : (joinPath directory name).toList ≠ [] := by
      rcases toList_joinPath directory name with ⟨_, alone⟩ | ⟨front, _, _, joined⟩
      · simpa [alone] using plain.notEmpty
      · simp [joined]
    simpa using this
  rw [locate_of_not_endsInSlash disk (plain.not_endsInSlash directory), named,
    plain.startOf_joinPath, plain.pathNames_joinPath, follow_append]
  simp only [Bool.false_eq_true, if_false, List.contains_eq_mem, decide_eq_true_eq]
  split
  · simp_all
  · split
    · rename_i long
      simp [Nat.not_lt.mpr long]
    · rename_i noNul short
      simp only [noNul, not_false_eq_true, true_and, Nat.not_le.mp short]
      cases disk.follow (disk.startOf directory) (pathNames directory) with
      | error cause => simp [bind, Except.bind]
      | ok here =>
          simp only [bind, Except.bind, Except.ok.injEq, exists_eq_left', step,
            plain.notDot, plain.notDots, if_false, holdsDirectory]
          cases disk.entry? here with
          | none => simp
          | some entry =>
              cases entry with
              | file mode content => simp
              | directory mode =>
                  simp only [true_and]
                  split
                  · rename_i long
                    simp [Nat.not_le.mpr long]
                  · rename_i fits
                    simp [Nat.not_lt.mp fits, eq_comm]

theorem lookUp_of_locate {disk : Disk} {path : String} {place : Place}
    (reached : disk.locate path = .ok place) :
    disk.lookUp path =
      match disk.entry? place with
      | some entry => .ok entry
      | none => .error .notFound := by
  unfold lookUp
  rw [reached]
  rfl

theorem currentDirectory_cases (disk : Disk) :
    disk.currentDirectory = .ok disk.workingDirectory ∨ disk.currentDirectory = .error .notFound := by
  unfold currentDirectory
  split
  · exact .inl rfl
  · exact .inr rfl

theorem entry_of_lookUp {disk : Disk} {path : String} {place : Place} {entry : Entry}
    (reached : disk.locate path = .ok place) (found : disk.lookUp path = .ok entry) :
    disk.entry? place = some entry := by
  rw [lookUp_of_locate reached] at found
  cases held : disk.entry? place <;> simp_all

theorem tryReadFile_eq_ok_iff {disk : Disk} {refused : String → Option Cause} {path : String}
    {content : ByteArray} :
    disk.tryReadFile refused path = .ok content ↔
      refused path = none ∧ disk.readFile path = .ok content := by
  unfold tryReadFile
  cases refused path <;> simp

/-- That there is no file is answered from outside or by the disk. -/
theorem tryReadFile_eq_notFound_iff {disk : Disk} {refused : String → Option Cause}
    {path : String} :
    disk.tryReadFile refused path = .error .notFound ↔
      refused path = some .notFound ∨
        refused path = none ∧ disk.readFile path = .error .notFound := by
  unfold tryReadFile
  cases refused path <;> simp

theorem readFile_of_lookUp {disk : Disk} {path : String} {mode : Nat} {content : ByteArray}
    (found : disk.lookUp path = .ok (.file mode content)) :
    disk.readFile path = .ok content := by
  unfold readFile
  rw [found]
  rfl

theorem entry_of_readFile {disk : Disk} {path : String} {place : Place} {content : ByteArray}
    (reached : disk.locate path = .ok place) (read : disk.readFile path = .ok content) :
    ∃ mode, disk.entry? place = some (.file mode content) := by
  unfold readFile at read
  rw [lookUp_of_locate reached] at read
  cases found : disk.entry? place with
  | none => simp [found, bind, Except.bind] at read
  | some entry =>
      cases entry with
      | directory mode => simp [found, bind, Except.bind] at read
      | file mode held =>
          simp only [found, bind, Except.bind, Except.ok.injEq] at read
          exact ⟨mode, by rw [read]⟩

theorem locate_of_readFile {disk : Disk} {path : String} {content : ByteArray}
    (read : disk.readFile path = .ok content) : ∃ place, disk.locate path = .ok place := by
  cases reached : disk.locate path with
  | ok place => exact ⟨place, rfl⟩
  | error cause => simp [readFile, lookUp, reached, bind, Except.bind] at read

theorem entry_of_readFile_notFound {disk : Disk} {path : String} {place : Place}
    (reached : disk.locate path = .ok place) (absent : disk.readFile path = .error .notFound) :
    disk.entry? place = none := by
  unfold readFile at absent
  rw [lookUp_of_locate reached] at absent
  cases found : disk.entry? place with
  | none => rfl
  | some entry => cases entry <;> simp [found, bind, Except.bind] at absent

/-- Where a path leads to the same place in two file trees and looks the same, there is the same. -/
theorem entry_eq_of_lookUp_eq {before after : Disk} {path : String} {place : Place}
    (first : before.locate path = .ok place) (second : after.locate path = .ok place)
    (same : after.lookUp path = before.lookUp path) : after.entry? place = before.entry? place := by
  rw [lookUp_of_locate first, lookUp_of_locate second] at same
  cases held : before.entry? place <;> cases holds : after.entry? place <;> simp_all

/-! ## Changes at one place -/

/-- Two file trees that agree everywhere but at one place, which is a directory in neither unless
it is one in both. -/
structure SameBut (place : Place) (before after : Disk) : Prop extends SameTree before after where
  elsewhere : ∀ other, other ≠ place → after.entry? other = before.entry? other
  umask : after.umask = before.umask

namespace SameBut

variable {place : Place} {before middle after : Disk}

theorem refl (place : Place) (disk : Disk) : SameBut place disk disk :=
  ⟨.refl disk, fun _ _ => rfl, rfl⟩

theorem trans (first : SameBut place before middle) (second : SameBut place middle after) :
    SameBut place before after :=
  ⟨first.toSameTree.trans second.toSameTree,
    fun other apart => (second.elsewhere other apart).trans (first.elsewhere other apart),
    second.umask.trans first.umask⟩

theorem of_entries (others : ∀ other, other ≠ place → after.entry? other = before.entry? other)
    (here : after.holdsDirectory place = before.holdsDirectory place)
    (umask : after.umask = before.umask)
    (workingDirectory : after.workingDirectory = before.workingDirectory) :
    SameBut place before after := by
  refine ⟨⟨fun other => ?_, workingDirectory⟩, others, umask⟩
  by_cases same : other = place
  · rw [same]
    exact here
  · unfold holdsDirectory
    rw [others other same]

theorem put_file {disk : Disk} (free : disk.holdsDirectory place = false) (mode : Nat)
    (content : ByteArray) : SameBut place disk (disk.put place (.file mode content)) := by
  have below := ne_nil_of_not_holdsDirectory free
  apply of_entries
  · intro other apart
    rw [entry?_put disk below, if_neg apart]
  · rw [free]
    unfold holdsDirectory
    rw [entry?_put disk below, if_pos rfl]
  · rfl
  · rfl

theorem drop {disk : Disk} (free : disk.holdsDirectory place = false) :
    SameBut place disk (disk.drop place) := by
  have below := ne_nil_of_not_holdsDirectory free
  apply of_entries
  · intro other apart
    rw [entry?_drop disk below, if_neg apart]
  · rw [free]
    unfold holdsDirectory
    rw [entry?_drop disk below, if_pos rfl]
  · rfl
  · rfl

theorem lookUp_eq (same : SameBut place before after) {path : String} {there : Place}
    (open_ : endsInSlash path = false) (reached : before.locate path = .ok there)
    (apart : there ≠ place) : after.lookUp path = before.lookUp path := by
  rw [lookUp_of_locate reached, lookUp_of_locate (same.locate_ok open_ reached),
    same.elsewhere there apart]

end SameBut

end WebviewHost.Files.Disk
