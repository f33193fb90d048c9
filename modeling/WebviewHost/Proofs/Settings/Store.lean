import WebviewHost.Proofs.Files.Replacement
import WebviewHost.Proofs.Settings.Document

/-!
# Changes of a settings store

A change either takes effect in memory and in the file or in neither. The file system may be in any
state and refuse any action: a change that fails leaves the document as it was, key by key, and the
file as it was, byte by byte.
-/

set_option autoImplicit false

namespace WebviewHost.Settings

open WebviewHost.Files

theorem plainName_settingsFile : PlainName settingsFile := by
  refine ⟨?_, ?_, ?_, ?_⟩ <;> decide

theorem plainName_temporary : PlainName (temporaryPath settingsFile) := by
  refine ⟨?_, ?_, ?_, ?_⟩ <;> decide

theorem temporaryPath_joinPath (directory name : String) :
    temporaryPath (joinPath directory name) = joinPath directory (temporaryPath name) := by
  unfold temporaryPath joinPath
  split
  · exact String.append_assoc
  · simp only [String.append_assoc]

namespace Store

/-- A store as it comes from a data directory. -/
structure OpenIn (directory : String) (store : Store) : Prop where
  path : store.path = joinPath directory settingsFile
  loaded : Loaded store.document

/-- Whoever is asked to read the settings file answers that there is none, whether or not there is. -/
def Denies (faults : Faults) (directory : String) : Prop :=
  faults.unread (joinPath directory settingsFile) = some .notFound

/-- How a first settings file is written. -/
def creation (directory : String) : Replacement :=
  ⟨joinPath directory settingsFile, fileText defaults⟩

theorem save_defaults_cases (faults : Faults) (directory : String) (disk : Disk) :
    (((creation directory).run faults disk).failure = none ∧
      save faults (joinPath directory settingsFile) defaults disk =
        (.ok (), ((creation directory).run faults disk).final)) ∨
    (((creation directory).run faults disk).failure ≠ none ∧ ∃ error,
      save faults (joinPath directory settingsFile) defaults disk =
        (.error error, ((creation directory).run faults disk).final)) := by
  unfold save creation
  dsimp only
  obtain ⟨passed, final, failure⟩ :=
    Replacement.run ⟨joinPath directory settingsFile, fileText defaults⟩ faults disk
  cases failure with
  | none => exact .inl ⟨rfl, rfl⟩
  | some failed => exact .inr ⟨Option.some_ne_none failed, _, rfl⟩

/-- What opening a data directory can come to: the directory cannot be made, the file cannot be read,
it is read and left alone, or the answer is that there is none and one is written. -/
inductive Opening (faults : Faults) (directory : String) (disk : Disk) :
    Except StoreError Store → Disk → Prop where
  | unmade {cause : Cause} {made : Disk} :
      disk.tryDirectories faults.unmade directory = (.error cause, made) →
      Opening faults directory disk (.error ⟨directory, cause⟩) made
  | unread {cause : Cause} {made : Disk} :
      disk.tryDirectories faults.unmade directory = (.ok (), made) →
      made.tryReadFile faults.unread (joinPath directory settingsFile) = .error cause →
      cause ≠ .notFound →
      Opening faults directory disk (.error ⟨joinPath directory settingsFile, cause⟩) made
  | loaded {content : ByteArray} {made : Disk} :
      disk.tryDirectories faults.unmade directory = (.ok (), made) →
      made.tryReadFile faults.unread (joinPath directory settingsFile) = .ok content →
      Opening faults directory disk
        (.ok ⟨joinPath directory settingsFile, readDocument content⟩) made
  | created {made : Disk} :
      disk.tryDirectories faults.unmade directory = (.ok (), made) →
      made.tryReadFile faults.unread (joinPath directory settingsFile) = .error .notFound →
      ((creation directory).run faults made).failure = none →
      Opening faults directory disk (.ok ⟨joinPath directory settingsFile, defaults⟩)
        ((creation directory).run faults made).final
  | uncreated {error : StoreError} {made : Disk} :
      disk.tryDirectories faults.unmade directory = (.ok (), made) →
      made.tryReadFile faults.unread (joinPath directory settingsFile) = .error .notFound →
      ((creation directory).run faults made).failure ≠ none →
      Opening faults directory disk (.error error) ((creation directory).run faults made).final

theorem opening_openIn (faults : Faults) (directory : String) (disk : Disk) :
    Opening faults directory disk (Store.openIn faults directory disk).1
      (Store.openIn faults directory disk).2 := by
  unfold Store.openIn
  rcases tried : disk.tryDirectories faults.unmade directory with ⟨cause | ⟨⟩, made⟩
  · exact .unmade tried
  · dsimp only
    split
    · rename_i content read
      exact .loaded tried read
    · rename_i absent
      rcases save_defaults_cases faults directory made with ⟨written, saved⟩ | ⟨failed, _, saved⟩
      · rw [saved]
        exact .created tried absent written
      · rw [saved]
        exact .uncreated tried absent failed
    · rename_i cause refused unread
      exact .unread tried unread refused

theorem openIn_of_openIn {faults : Faults} {directory : String} {disk after : Disk} {store : Store}
    (opened : Store.openIn faults directory disk = (.ok store, after)) :
    store.OpenIn directory := by
  have opening := opening_openIn faults directory disk
  rw [opened] at opening
  cases opening with
  | loaded _ _ => exact ⟨rfl, loaded_readDocument _⟩
  | created _ _ _ => exact ⟨rfl, loaded_defaults⟩

def replacement (store : Store) (key : String) (value : Json) : Replacement :=
  ⟨store.path, fileText (Members.insert key value store.document)⟩

/-- How the file system goes through a change. -/
def course (faults : Faults) (store : Store) (key : String) (value : Json) (disk : Disk) :
    Replacement.Course :=
  (store.replacement key value).run faults disk

/-- A failed change is taken back exactly: an absent key is absent again, and an old value is
back. -/
theorem rollBack_insert {document : Members} (ordered : document.Ordered) (key : String)
    (value : Json) :
    rollBack key (Members.get? document key) (Members.insert key value document) = document := by
  unfold rollBack
  split
  · rename_i old held
    refine ((ordered.insert key value).insert key old).eq_of_get?_eq ordered fun other => ?_
    rw [Members.get?_insert, Members.get?_insert]
    by_cases same : other = key
    · rw [if_pos same, same, held]
    · rw [if_neg same, if_neg same]
  · rename_i absent
    refine ((ordered.insert key value).erase key).eq_of_get?_eq ordered fun other => ?_
    rw [Members.get?_erase, Members.get?_insert]
    by_cases same : other = key
    · rw [if_pos same, same, absent]
    · rw [if_neg same, if_neg same]

/-- What a change comes to, by how its course ends. -/
theorem set_eq {directory : String} {store : Store} (isOpen : store.OpenIn directory)
    (faults : Faults) (key : String) (value : Json) (disk : Disk) :
    ((course faults store key value disk).failure = none ∧
      store.set faults key value disk =
        (.ok (), ⟨store.path, Members.insert key value store.document⟩,
          (course faults store key value disk).final)) ∨
    ((course faults store key value disk).failure ≠ none ∧ ∃ error,
      store.set faults key value disk =
        (.error error, store, (course faults store key value disk).final)) := by
  unfold Store.set save course replacement
  dsimp only
  obtain ⟨passed, final, failure⟩ :=
    Replacement.run ⟨store.path, fileText (Members.insert key value store.document)⟩ faults disk
  cases failure with
  | none => exact .inl ⟨rfl, rfl⟩
  | some failed =>
      refine .inr ⟨Option.some_ne_none failed, ?_⟩
      dsimp only
      rw [rollBack_insert isOpen.loaded.ordered]
      exact ⟨_, rfl⟩

theorem OpenIn.insert {directory : String} {store : Store} (isOpen : store.OpenIn directory)
    (key : String) (value : Json) :
    OpenIn directory ⟨store.path, Members.insert key value store.document⟩ :=
  ⟨isOpen.path, isOpen.loaded.insert key value⟩

/-! ## The file -/

theorem placed_of_locate {directory : String} {disk : Disk} {draft : Place} (content : ByteArray)
    (located : disk.locate (temporaryPath (joinPath directory settingsFile)) = .ok draft) :
    ∃ goal, Replacement.Placed ⟨joinPath directory settingsFile, content⟩ disk draft goal := by
  have whole := located
  rw [temporaryPath_joinPath,
    Disk.locate_joinPath_eq_ok_iff disk directory plainName_temporary] at located
  obtain ⟨noNul, short, fits, here, followed, directoryHere, rfl⟩ := located
  have longer : joinPath directory settingsFile ++ ".tmp" =
      joinPath directory (temporaryPath settingsFile) := temporaryPath_joinPath directory settingsFile
  have goal : disk.locate (joinPath directory settingsFile) = .ok (here ++ [settingsFile]) := by
    rw [Disk.locate_joinPath_eq_ok_iff disk directory plainName_settingsFile]
    refine ⟨fun member => noNul ?_, ?_, by decide, here, followed, directoryHere, rfl⟩
    · rw [← longer, String.toList_append]
      exact List.mem_append_left _ member
    · rw [← longer, String.utf8ByteSize_append] at short
      omega
  refine ⟨here ++ [settingsFile], whole, goal, ?_, plainName_settingsFile.not_endsInSlash directory,
    ?_⟩
  · show endsInSlash (temporaryPath (joinPath directory settingsFile)) = false
    rw [temporaryPath_joinPath]
    exact plainName_temporary.not_endsInSlash directory
  · simp [temporaryPath, settingsFile]

def Untouched (path : String) (before after : Disk) : Prop :=
  after.lookUp path = before.lookUp path

def Holds (path : String) (content : ByteArray) (disk : Disk) : Prop :=
  disk.readFile path = .ok content

theorem Holds.of_untouched {path : String} {content : ByteArray} {before after : Disk}
    (holds : Holds path content before) (untouched : Untouched path before after) :
    Holds path content after := by
  unfold Holds Disk.readFile at holds ⊢
  unfold Untouched at untouched
  rw [untouched]
  exact holds

/-- What becomes of a path when its file is to be replaced: it is as it was until it holds the whole
content, and if that fails, no temporary file is left that could have been removed. -/
structure Replaced (path : String) (content : ByteArray) (faults : Faults) (before : Disk)
    (course : Replacement.Course) : Prop where
  tree : Disk.SameTree before course.final
  done : course.failure = none → Holds path content course.final
  failed : course.failure ≠ none → Untouched path before course.final ∧
    (faults.stuck = none → ∀ mode content,
      course.final.lookUp (temporaryPath path) ≠ .ok (.file mode content))
  between : ∀ point ∈ course.passed, Untouched path before point ∨ Holds path content point

theorem lookUp_of_published {directory : String} {content : ByteArray} {draft goal : Place}
    {disk after : Disk}
    (placed : Replacement.Placed ⟨joinPath directory settingsFile, content⟩ disk draft goal)
    (published : Replacement.Published ⟨joinPath directory settingsFile, content⟩ draft goal disk
      after) :
    after.lookUp (joinPath directory settingsFile) = .ok (.file privateMode content) := by
  have reached := published.toSameTree.locate_ok placed.openPath placed.path
  rw [Disk.lookUp_of_locate reached, published.file]

/-- The settings file of any directory is replaced as a whole or not at all. -/
theorem replaced_settingsFile (directory : String) (content : ByteArray) (faults : Faults)
    (disk : Disk) :
    Replaced (joinPath directory settingsFile) content faults disk
      (Replacement.run ⟨joinPath directory settingsFile, content⟩ faults disk) := by
  cases located : disk.locate (temporaryPath (joinPath directory settingsFile)) with
  | error cause =>
      have nowhere : disk.locate
          (Replacement.temporary ⟨joinPath directory settingsFile, content⟩) = .error cause := located
      obtain ⟨failed, final, points⟩ := Replacement.run_of_unplaced nowhere faults
      refine ⟨?_, fun done => absurd done failed, fun _ => ?_, fun point member => .inl ?_⟩
      · rw [final]
        exact .refl disk
      · rw [final]
        refine ⟨rfl, fun _ mode content found => ?_⟩
        simp [Disk.lookUp, located, bind, Except.bind] at found
      · rw [points point member]
        rfl
  | ok draft =>
      obtain ⟨goal, placed⟩ := placed_of_locate content located
      have whole := Replacement.run_allOrNothing placed faults
      have untouched : ∀ {after}, Disk.SameBut draft disk after →
          Untouched (joinPath directory settingsFile) disk after :=
        fun same => same.lookUp_eq placed.openPath placed.path (Ne.symm placed.apart)
      have holds : ∀ {after},
          Replacement.Published ⟨joinPath directory settingsFile, content⟩ draft goal disk after →
          Holds (joinPath directory settingsFile) content after := by
        intro after published
        exact Disk.readFile_of_lookUp (lookUp_of_published placed published)
      refine ⟨?_, fun done => holds (whole.done done), fun failed => ?_,
        fun point member => (whole.between point member).imp untouched holds⟩
      · cases failure : (Replacement.run ⟨joinPath directory settingsFile, content⟩ faults
            disk).failure with
        | none => exact (whole.done failure).toSameTree
        | some failed => exact (whole.failed (by simp [failure])).1.toSameTree
      · obtain ⟨same, gone⟩ := whole.failed failed
        refine ⟨untouched same, fun free mode content found => ?_⟩
        have reached := same.toSameTree.locate_ok placed.openTemporary placed.temporary
        simp only [Replacement.temporary] at reached
        rw [Disk.lookUp_of_locate reached] at found
        split at found
        · rename_i entry there
          cases found
          exact gone free mode content there
        · cases found

theorem OpenIn.replaced {directory : String} {store : Store} (isOpen : store.OpenIn directory)
    (faults : Faults) (key : String) (value : Json) (disk : Disk) :
    Replaced store.path (fileText (Members.insert key value store.document)) faults disk
      (course faults store key value disk) := by
  unfold course replacement
  rw [isOpen.path]
  exact replaced_settingsFile directory _ faults disk

/-- No directory is in the way of the settings file or of its temporary file. -/
structure Writable (directory : String) (disk : Disk) : Prop where
  temporary : ∃ draft, disk.locate (temporaryPath (joinPath directory settingsFile)) = .ok draft ∧
    disk.holdsDirectory draft = false
  path : ∃ goal, disk.locate (joinPath directory settingsFile) = .ok goal ∧
    disk.holdsDirectory goal = false

theorem run_of_writable {directory : String} {disk : Disk} (writable : Writable directory disk)
    (content : ByteArray) {faults : Faults} (allowed : ∀ step, faults.refused step = none) :
    (Replacement.run ⟨joinPath directory settingsFile, content⟩ faults disk).failure = none := by
  obtain ⟨draft, located, freeDraft⟩ := writable.temporary
  obtain ⟨goal, reached, freeGoal⟩ := writable.path
  obtain ⟨place, placed⟩ := placed_of_locate content located
  have same : place = goal := by
    have twice := placed.path.symm.trans reached
    cases twice
    rfl
  subst same
  exact Replacement.run_succeeds placed freeDraft freeGoal allowed

theorem OpenIn.set_of_writable {directory : String} {store : Store}
    (isOpen : store.OpenIn directory) {disk : Disk} (writable : Writable directory disk)
    {faults : Faults} (allowed : ∀ step, faults.refused step = none) (key : String) (value : Json) :
    ∃ left, store.set faults key value disk =
        (.ok (), ⟨store.path, Members.insert key value store.document⟩, left) ∧
      Disk.SameTree disk left ∧
      Holds store.path (fileText (Members.insert key value store.document)) left := by
  have quiet : (course faults store key value disk).failure = none := by
    unfold course replacement
    rw [isOpen.path]
    exact run_of_writable writable _ allowed
  have replaced := isOpen.replaced faults key value disk
  rcases set_eq isOpen faults key value disk with ⟨_, done⟩ | ⟨failure, _⟩
  · exact ⟨_, done, replaced.tree, replaced.done quiet⟩
  · exact absurd quiet failure

theorem Writable.of_sameTree {directory : String} {before after : Disk}
    (writable : Writable directory before) (same : Disk.SameTree before after) :
    Writable directory after := by
  obtain ⟨draft, located, freeDraft⟩ := writable.temporary
  obtain ⟨goal, reached, freeGoal⟩ := writable.path
  have openTemporary : endsInSlash (temporaryPath (joinPath directory settingsFile)) = false := by
    rw [temporaryPath_joinPath]
    exact plainName_temporary.not_endsInSlash directory
  constructor
  · exact ⟨draft, same.locate_ok openTemporary located, (same.directories draft).trans freeDraft⟩
  · exact ⟨goal, same.locate_ok (plainName_settingsFile.not_endsInSlash directory) reached,
      (same.directories goal).trans freeGoal⟩

theorem published_of_run {directory : String} {content : ByteArray} {faults : Faults} {disk : Disk}
    (written : (Replacement.run ⟨joinPath directory settingsFile, content⟩ faults disk).failure =
      none) :
    ∃ draft goal,
      Replacement.Placed ⟨joinPath directory settingsFile, content⟩ disk draft goal ∧
      Replacement.Published ⟨joinPath directory settingsFile, content⟩ draft goal disk
        (Replacement.run ⟨joinPath directory settingsFile, content⟩ faults disk).final := by
  cases located : disk.locate (temporaryPath (joinPath directory settingsFile)) with
  | error cause =>
      have nowhere : disk.locate
          (Replacement.temporary ⟨joinPath directory settingsFile, content⟩) = .error cause := located
      exact absurd written (Replacement.run_of_unplaced nowhere faults).1
  | ok draft =>
      obtain ⟨goal, placed⟩ := placed_of_locate content located
      exact ⟨draft, goal, placed, (Replacement.run_allOrNothing placed faults).done written⟩

theorem lookUp_of_run {directory : String} {content : ByteArray} {faults : Faults} {disk : Disk}
    (written : (Replacement.run ⟨joinPath directory settingsFile, content⟩ faults disk).failure =
      none) :
    (Replacement.run ⟨joinPath directory settingsFile, content⟩ faults disk).final.lookUp
      (joinPath directory settingsFile) = .ok (.file privateMode content) := by
  obtain ⟨draft, goal, placed, published⟩ := published_of_run written
  exact lookUp_of_published placed published

theorem writable_of_run {directory : String} {content : ByteArray} {faults : Faults} {disk : Disk}
    (written : (Replacement.run ⟨joinPath directory settingsFile, content⟩ faults disk).failure =
      none) :
    Writable directory
      (Replacement.run ⟨joinPath directory settingsFile, content⟩ faults disk).final := by
  obtain ⟨draft, goal, placed, published⟩ := published_of_run written
  have still := placed.of_sameTree published.toSameTree
  refine ⟨⟨draft, still.temporary, ?_⟩, ⟨goal, still.path, ?_⟩⟩
  · unfold Disk.holdsDirectory
    rw [published.noDraft]
  · unfold Disk.holdsDirectory
    rw [published.file]

/-- A change of which an action is refused has no effect, and others may work later. -/
theorem OpenIn.set_of_refused {directory : String} {store : Store}
    (isOpen : store.OpenIn directory) {faults : Faults} {step : WriteStep} {cause : Cause}
    (refused : faults.refused step = some cause) (key : String) (value : Json) (disk : Disk) :
    ∃ error left, store.set faults key value disk = (.error error, store, left) ∧
      Disk.SameTree disk left := by
  have failure : (course faults store key value disk).failure ≠ none :=
    Replacement.run_refused refused disk
  rcases set_eq isOpen faults key value disk with ⟨quiet, _⟩ | ⟨_, error, failed⟩
  · exact absurd quiet failure
  · exact ⟨error, _, failed, (isOpen.replaced faults key value disk).tree⟩

end Store

end WebviewHost.Settings
