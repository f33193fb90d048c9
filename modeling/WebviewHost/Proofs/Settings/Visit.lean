import WebviewHost.Proofs.Files.Directories
import WebviewHost.Proofs.Settings.Store

/-!
# One visit to a data directory

A data directory is opened and at most one member of its settings is changed, while the file system
may refuse anything. What is in the settings file afterwards is said of the place that its path
leads to, before or after: in a directory that had to be made first, it may lead nowhere before.
-/

set_option autoImplicit false

namespace WebviewHost.Settings.Store

open WebviewHost.Files

variable {opening writing : Faults} {directory : String} {disk left : Disk} {goal : Place}

/-- The document that opening yields of a file at a place: the one that the file stands for, or the
defaults if there is no file or it is denied. -/
def documentAt (opening : Faults) (directory : String) (disk : Disk) (place : Place) : Members :=
  match opening.unread (joinPath directory settingsFile), disk.entry? place with
  | some .notFound, _ => defaults
  | _, some (.file _ content) => readDocument content
  | _, _ => defaults

/-- What becomes of a place where no member is set. A file stays as it is, and where there was none,
there is none now or one with the defaults. Only a file that is denied when it is to be read may have
the defaults afterwards, and no others. -/
structure Kept (opening : Faults) (directory : String) (before after : Disk) (place : Place) :
    Prop where
  file : ¬Denies opening directory → ∀ mode content,
    before.entry? place = some (.file mode content) → after.entry? place = some (.file mode content)
  absent : (∀ mode content, before.entry? place ≠ some (.file mode content)) →
    ∀ mode content, after.entry? place = some (.file mode content) → content = fileText defaults
  denied : Denies opening directory → ∀ mode content,
    before.entry? place = some (.file mode content) →
      after.entry? place = some (.file mode content) ∨
        after.entry? place = some (.file privateMode (fileText defaults))

def LeadsTo (directory : String) (disk : Disk) (place : Place) : Prop :=
  disk.locate (joinPath directory settingsFile) = .ok place

/-- The settings file of a data directory is kept, wherever its path leads, before or after. -/
def KeptIn (opening : Faults) (directory : String) (before after : Disk) : Prop :=
  ∀ goal, LeadsTo directory before goal ∨ LeadsTo directory after goal →
    Kept opening directory before after goal

/-- The settings file of a data directory holds the document that opening yields of it, with one
member set. -/
def ChangedIn (opening : Faults) (directory : String) (before after : Disk) (key : String)
    (value : Json) : Prop :=
  ∃ goal mode, LeadsTo directory after goal ∧ after.entry? goal = some (.file mode
    (fileText (Members.insert key value (documentAt opening directory before goal))))

/-- A visit to a data directory by what it changes: it is not entered, it is only opened or in vain,
a change fails, or a member gets a value. -/
inductive Visit (opening writing : Faults) (directory : String) (disk : Disk) :
    Option (String × Json) → Disk → Prop where
  | aside : Visit opening writing directory disk none disk
  | opened {result : Except StoreError Store} {left : Disk} :
      Store.openIn opening directory disk = (result, left) →
      Visit opening writing directory disk none left
  | refused {store after : Store} {opened left : Disk} {error : StoreError} {key : String}
      {value : Json} :
      Store.openIn opening directory disk = (.ok store, opened) →
      store.set writing key value opened = (.error error, after, left) →
      Visit opening writing directory disk none left
  | changed {store after : Store} {opened left : Disk} {key : String} {value : Json} :
      Store.openIn opening directory disk = (.ok store, opened) →
      store.set writing key value opened = (.ok (), after, left) →
      Visit opening writing directory disk (some (key, value)) left

theorem Kept.refl (opening : Faults) (directory : String) (disk : Disk) (place : Place) :
    Kept opening directory disk disk place :=
  ⟨fun _ _ _ found => found, fun noFile mode content found => absurd found (noFile mode content),
    fun _ _ _ found => .inl found⟩

theorem Kept.of_entry_eq {before middle after : Disk}
    (kept : Kept opening directory before middle goal)
    (same : after.entry? goal = middle.entry? goal) : Kept opening directory before after goal := by
  refine ⟨fun affirmed mode content found => ?_, fun noFile mode content found => ?_,
    fun denied mode content found => ?_⟩
  · rw [same]
    exact kept.file affirmed mode content found
  · rw [same] at found
    exact kept.absent noFile mode content found
  · rw [same]
    exact kept.denied denied mode content found

theorem file_of_gains {made : Disk} (gains : Disk.Gains disk made) {mode : Nat}
    {content : ByteArray} (found : made.entry? goal = some (.file mode content)) :
    disk.entry? goal = some (.file mode content) := by
  cases held : disk.entry? goal with
  | some entry => exact (gains.kept goal entry held).symm.trans found
  | none =>
      rcases gains.fresh goal held with still | ⟨_, new⟩
      · rw [still] at found
        cases found
      · rw [new] at found
        cases found

theorem kept_of_gains {made : Disk} (gains : Disk.Gains disk made) :
    Kept opening directory disk made goal :=
  ⟨fun _ _ _ found => gains.kept goal _ found,
    fun noFile mode content found => absurd (file_of_gains gains found) (noFile mode content),
    fun _ _ _ found => .inl (gains.kept goal _ found)⟩

/-- What a file is when the defaults have been written over whatever was there. -/
theorem kept_of_created {made : Disk} (gains : Disk.Gains disk made)
    (leads : LeadsTo directory made goal)
    (absent : made.tryReadFile opening.unread (joinPath directory settingsFile) = .error .notFound)
    (found : left.entry? goal = some (.file privateMode (fileText defaults))) :
    Kept opening directory disk left goal ∧ documentAt opening directory disk goal = defaults := by
  have same : ∀ mode content, left.entry? goal = some (.file mode content) →
      content = fileText defaults := by
    intro mode content held
    cases found.symm.trans held
    rfl
  rcases Disk.tryReadFile_eq_notFound_iff.mp absent with denied | ⟨allowed, gone⟩
  · refine ⟨⟨fun affirmed => absurd denied affirmed, fun _ => same, fun _ _ _ _ => .inr found⟩, ?_⟩
    unfold documentAt
    rw [denied]
  · have nothing : disk.entry? goal = none := by
      cases held : disk.entry? goal with
      | none => rfl
      | some entry =>
          have still := gains.kept goal entry held
          rw [Disk.entry_of_readFile_notFound leads gone] at still
          cases still
    have noFile : ∀ {mode content}, disk.entry? goal ≠ some (.file mode content) := by
      intro mode content held
      rw [nothing] at held
      cases held
    refine ⟨⟨fun _ _ _ held => absurd held noFile, fun _ => same,
      fun _ _ _ held => absurd held noFile⟩, ?_⟩
    unfold documentAt
    rw [allowed, nothing]

theorem openPath (directory : String) : endsInSlash (joinPath directory settingsFile) = false :=
  plainName_settingsFile.not_endsInSlash directory

theorem leadsTo_iff {before after : Disk} (same : Disk.SameTree before after) :
    LeadsTo directory after goal ↔ LeadsTo directory before goal :=
  ⟨same.symm.locate_ok (openPath directory), same.locate_ok (openPath directory)⟩

theorem entry_of_failed {content : ByteArray} {faults : Faults}
    (failed : (Replacement.run ⟨joinPath directory settingsFile, content⟩ faults disk).failure ≠
      none)
    (leads : LeadsTo directory disk goal) :
    (Replacement.run ⟨joinPath directory settingsFile, content⟩ faults disk).final.entry? goal =
      disk.entry? goal := by
  have replaced := replaced_settingsFile directory content faults disk
  exact Disk.entry_eq_of_lookUp_eq leads ((leadsTo_iff replaced.tree).mpr leads)
    (replaced.failed failed).1

/-- What opening reads or writes is what it found, or the defaults where it found nothing. -/
theorem kept_of_openIn {result : Except StoreError Store}
    (opened : Store.openIn opening directory disk = (result, left))
    (leads : LeadsTo directory disk goal ∨ LeadsTo directory left goal) :
    LeadsTo directory left goal ∧ Kept opening directory disk left goal ∧
      ∀ store, result = .ok store →
        store.document = documentAt opening directory disk goal := by
  have course := opening_openIn opening directory disk
  rw [opened] at course
  have gained : ∀ {tried made}, disk.tryDirectories opening.unmade directory = (tried, made) →
      Disk.Gains disk made := by
    intro tried made same
    have gains := Disk.gains_tryDirectories disk opening.unmade directory
    rwa [same] at gains
  have there : ∀ {made : Disk}, Disk.Gains disk made → Disk.SameTree made left →
      LeadsTo directory made goal := by
    intro made gains same
    rcases leads with before | after
    · exact gains.grows.locate_ok (openPath directory) before
    · exact (leadsTo_iff same).mp after
  cases course with
  | unmade tried =>
      have gains := gained tried
      exact ⟨there gains (.refl _), kept_of_gains gains, nofun⟩
  | unread tried _ _ =>
      have gains := gained tried
      exact ⟨there gains (.refl _), kept_of_gains gains, nofun⟩
  | loaded tried read =>
      have gains := gained tried
      have here := there gains (.refl _)
      obtain ⟨allowed, held⟩ := Disk.tryReadFile_eq_ok_iff.mp read
      obtain ⟨mode, found⟩ := Disk.entry_of_readFile here held
      refine ⟨here, kept_of_gains gains, ?_⟩
      rintro _ ⟨⟩
      unfold documentAt
      rw [allowed, file_of_gains gains found]
  | @created made tried absent written =>
      have gains := gained tried
      have replaced := replaced_settingsFile directory (fileText defaults) opening made
      have here := there gains replaced.tree
      have after := (leadsTo_iff replaced.tree).mpr here
      have found := Disk.entry_of_lookUp after (lookUp_of_run written)
      obtain ⟨kept, document⟩ := kept_of_created gains here absent found
      refine ⟨after, kept, ?_⟩
      rintro _ ⟨⟩
      exact document.symm
  | @uncreated _ made tried _ failed =>
      have gains := gained tried
      have replaced := replaced_settingsFile directory (fileText defaults) opening made
      have here := there gains replaced.tree
      exact ⟨(leadsTo_iff replaced.tree).mpr here,
        (kept_of_gains gains).of_entry_eq (entry_of_failed failed here), nofun⟩

theorem Visit.kept (visit : Visit opening writing directory disk none left) :
    KeptIn opening directory disk left := by
  intro goal leads
  cases visit with
  | aside => exact .refl opening directory disk goal
  | opened opened => exact (kept_of_openIn opened leads).2.1
  | @refused store after opened _ error key value isOpened refused =>
      have isOpen := openIn_of_openIn isOpened
      rcases set_eq isOpen writing key value opened with ⟨_, done⟩ | ⟨failed, _, same⟩
      · rw [done] at refused
        cases refused
      · rw [same] at refused
        cases refused
        unfold course replacement at failed leads ⊢
        rw [isOpen.path] at failed leads ⊢
        have tree := (replaced_settingsFile directory
          (fileText (Members.insert key value store.document)) writing opened).tree
        rw [leadsTo_iff tree] at leads
        obtain ⟨here, kept, -⟩ := kept_of_openIn isOpened leads
        exact kept.of_entry_eq (entry_of_failed failed here)

theorem Visit.changes {key : String} {value : Json}
    (visit : Visit opening writing directory disk (some (key, value)) left) :
    ChangedIn opening directory disk left key value := by
  cases visit with
  | @changed store after opened _ _ _ isOpened changed =>
      have isOpen := openIn_of_openIn isOpened
      rcases set_eq isOpen writing key value opened with ⟨quiet, same⟩ | ⟨_, _, failed⟩
      · rw [same] at changed
        cases changed
        unfold course replacement at quiet ⊢
        rw [isOpen.path] at quiet ⊢
        have replaced := replaced_settingsFile directory
          (fileText (Members.insert key value store.document)) writing opened
        have holds := replaced.done quiet
        obtain ⟨goal, leads⟩ := Disk.locate_of_readFile holds
        obtain ⟨mode, found⟩ := Disk.entry_of_readFile leads holds
        obtain ⟨-, -, document⟩ :=
          kept_of_openIn isOpened (.inr ((leadsTo_iff replaced.tree).mp leads))
        refine ⟨goal, mode, leads, ?_⟩
        rw [← document store rfl]
        exact found
      · rw [failed] at changed
        cases changed

end WebviewHost.Settings.Store
