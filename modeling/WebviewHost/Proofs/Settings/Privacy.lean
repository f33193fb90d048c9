import WebviewHost.Proofs.Files.Privacy
import WebviewHost.Proofs.Settings.Store

/-!
# Settings are private

A data directory is opened and its store is changed any number of times, while any action of the
file system may be refused. Beside the disk runs the record of the files into which the settings
have been written: at every point each of them is for its owner only.
-/

set_option autoImplicit false

namespace WebviewHost.Settings.Store

open WebviewHost.Files

/-- What is done with a data directory: its store is opened, or a key of it is given a value.
Anything may be refused meanwhile. -/
inductive Deed where
  | opening (faults : Faults)
  | change (faults : Faults) (key : String) (value : Json)

/-- Whether opening a data directory writes a first settings file. -/
def creates (faults : Faults) (directory : String) (disk : Disk) : Bool :=
  match disk.tryDirectories faults.unmade directory with
  | (.ok (), made) =>
      match made.tryReadFile faults.unread (joinPath directory settingsFile) with
      | .error .notFound => true
      | _ => false
  | _ => false

/-- The ledgers that opening a data directory passes through. -/
def openingLedgers (faults : Faults) (directory : String) (ledger : Ledger) : List Ledger :=
  let made : Ledger := ⟨(ledger.disk.tryDirectories faults.unmade directory).2, ledger.written⟩
  made :: if creates faults directory ledger.disk then
    (creation directory).ledgers faults made writeSteps else []

/-- A data directory in use: the store that was opened last, the disk with the record of what has
been written, and all that it has passed through. -/
structure Custody where
  store : Option Store
  ledger : Ledger
  passed : List Ledger

namespace Custody

def begin (disk : Disk) : Custody := ⟨none, ⟨disk, fun _ => False⟩, []⟩

/-- The disk has gone through some ledgers to what it is now. -/
def pass (custody : Custody) (store : Option Store) (disk : Disk) (course : List Ledger) :
    Custody where
  store := store
  ledger := ⟨disk, (course.getLast?.getD custody.ledger).written⟩
  passed := custody.passed ++ course

def take (directory : String) (custody : Custody) : Deed → Custody
  | .opening faults =>
      let course := openingLedgers faults directory custody.ledger
      match Store.openIn faults directory custody.ledger.disk with
      | (.ok store, disk) => custody.pass (some store) disk course
      | (.error _, disk) => custody.pass custody.store disk course
  | .change faults key value =>
      match custody.store with
      | none => custody
      | some store =>
          let course := (store.replacement key value).ledgers faults custody.ledger writeSteps
          let (_, store, disk) := store.set faults key value custody.ledger.disk
          custody.pass (some store) disk course

def run (directory : String) (custody : Custody) (deeds : List Deed) : Custody :=
  deeds.foldl (take directory) custody

end Custody

/-! ## Opening -/

theorem openIn_of_creates {faults : Faults} {directory : String} {disk : Disk}
    (first : creates faults directory disk = true) :
    ∃ made, disk.tryDirectories faults.unmade directory = (.ok (), made) ∧
      (Store.openIn faults directory disk).2 = ((creation directory).run faults made).final ∧
      ∀ store opened, Store.openIn faults directory disk = (.ok store, opened) →
        ((creation directory).run faults made).failure = none := by
  unfold creates at first
  split at first
  · rename_i made tried
    split at first
    · rename_i absent
      refine ⟨made, tried, ?_⟩
      unfold Store.openIn
      simp only [tried, absent]
      rcases save_defaults_cases faults directory made with ⟨done, saved⟩ | ⟨_, error, saved⟩
      · rw [saved]
        exact ⟨rfl, fun _ _ _ => done⟩
      · rw [saved]
        exact ⟨rfl, fun _ _ opened => by cases opened⟩
    · cases first
  · cases first

theorem openIn_of_not_creates {faults : Faults} {directory : String} {disk : Disk}
    (kept : creates faults directory disk = false) :
    (Store.openIn faults directory disk).2 = (disk.tryDirectories faults.unmade directory).2 := by
  have opening := opening_openIn faults directory disk
  generalize Store.openIn faults directory disk = opened at opening ⊢
  obtain ⟨result, left⟩ := opened
  have wrote : ∀ {made : Disk},
      disk.tryDirectories faults.unmade directory = (.ok (), made) →
      made.tryReadFile faults.unread (joinPath directory settingsFile) = .error .notFound →
      creates faults directory disk = true := by
    intro made tried absent
    unfold creates
    simp only [tried, absent]
  cases opening with
  | unmade tried => rw [tried]
  | unread tried _ _ => rw [tried]
  | loaded tried _ => rw [tried]
  | created tried absent _ =>
      rw [wrote tried absent] at kept
      cases kept
  | uncreated tried absent _ =>
      rw [wrote tried absent] at kept
      cases kept

theorem getLast_openingLedgers (faults : Faults) (directory : String) (ledger : Ledger) :
    ((openingLedgers faults directory ledger).getLast?.getD ledger).disk =
      (Store.openIn faults directory ledger.disk).2 := by
  unfold openingLedgers
  dsimp only
  rw [List.getLast?_cons, Option.getD_some]
  cases first : creates faults directory ledger.disk with
  | false =>
      rw [openIn_of_not_creates first]
      rfl
  | true =>
      obtain ⟨made, tried, left, -⟩ := openIn_of_creates first
      rw [left, tried, if_pos rfl]
      exact Replacement.getLast_ledgers _ _ _ _

theorem private_openingLedgers (faults : Faults) (directory : String) {first : Disk}
    {ledger : Ledger} (kept : ledger.Private first) :
    ∀ point ∈ openingLedgers faults directory ledger, point.Private first := by
  have made := kept.of_gains (Disk.gains_tryDirectories ledger.disk faults.unmade directory)
  refine List.forall_mem_cons.mpr ⟨made, ?_⟩
  cases creates faults directory ledger.disk with
  | false => exact List.forall_mem_nil _
  | true =>
      exact Replacement.private_ledgers made fun draft located =>
        placed_of_locate (fileText defaults) located

/-! ## Any use of a data directory -/

namespace Custody

structure Guarded (directory : String) (first : Disk) (custody : Custody) : Prop where
  isOpen : ∀ store, custody.store = some store → store.OpenIn directory
  ledger : custody.ledger.Private first
  passed : ∀ ledger ∈ custody.passed, ledger.Private first

variable {directory : String} {first disk : Disk} {custody : Custody} {store : Option Store}
  {points : List Ledger}

theorem Guarded.pass (guarded : Guarded directory first custody)
    (isOpen : ∀ opened, store = some opened → opened.OpenIn directory)
    (kept : ∀ ledger ∈ points, ledger.Private first)
    (last : (points.getLast?.getD custody.ledger).disk = disk) :
    Guarded directory first (custody.pass store disk points) := by
  have now : (points.getLast?.getD custody.ledger).Private first := by
    cases ends : points.getLast? with
    | none => exact guarded.ledger
    | some ledger => exact kept ledger (List.mem_of_getLast? ends)
  refine ⟨isOpen, ?_, List.forall_mem_append.mpr ⟨guarded.passed, kept⟩⟩
  unfold Custody.pass
  rw [← last]
  exact now

theorem Guarded.take (guarded : Guarded directory first custody) (deed : Deed) :
    Guarded directory first (custody.take directory deed) := by
  cases deed with
  | opening faults =>
      have kept := private_openingLedgers faults directory guarded.ledger
      have last := getLast_openingLedgers faults directory custody.ledger
      rcases opened : Store.openIn faults directory custody.ledger.disk with ⟨error | store, left⟩
      · simp only [Custody.take, opened]
        rw [opened] at last
        exact guarded.pass guarded.isOpen kept last
      · simp only [Custody.take, opened]
        rw [opened] at last
        apply guarded.pass _ kept last
        rintro _ ⟨⟩
        exact openIn_of_openIn opened
  | change faults key value =>
      cases held : custody.store with
      | none =>
          simp only [Custody.take, held]
          exact guarded
      | some store =>
          have isOpen := guarded.isOpen store held
          have kept : ∀ point ∈
              (store.replacement key value).ledgers faults custody.ledger writeSteps,
              point.Private first := by
            apply Replacement.private_ledgers guarded.ledger
            intro draft located
            unfold Store.replacement Replacement.temporary at located
            unfold Store.replacement
            rw [isOpen.path] at located ⊢
            exact placed_of_locate _ located
          have last := Replacement.getLast_ledgers (store.replacement key value) faults writeSteps
            custody.ledger
          rcases set_eq isOpen faults key value custody.ledger.disk with
            ⟨_, done⟩ | ⟨_, error, failed⟩
          · simp only [Custody.take, held, done]
            apply guarded.pass _ kept last
            rintro _ ⟨⟩
            exact isOpen.insert key value
          · simp only [Custody.take, held, failed]
            apply guarded.pass _ kept last
            rintro _ ⟨⟩
            exact isOpen

theorem guarded_run (directory : String) (first : Disk) (deeds : List Deed) :
    Guarded directory first ((begin first).run directory deeds) := by
  have general : ∀ custody, Guarded directory first custody →
      Guarded directory first (custody.run directory deeds) := by
    induction deeds with
    | nil => exact fun custody guarded => guarded
    | cons deed rest ih => exact fun custody guarded => ih _ (guarded.take deed)
  apply general
  constructor
  · rintro store ⟨⟩
  · exact ⟨fun _ recorded => recorded.elim, fun _ _ _ _ found => .inr found⟩
  · exact List.forall_mem_nil _

/-- What has been written is for the owner only at every point, a settings file that has just been
made or changed has mode 0600, and one that could not be changed has the mode and the content it
had. The points are the disks that changing and opening pass through. -/
structure KeepsPrivate (directory : String) (first : Disk) (custody : Custody) : Prop where
  passed : ∀ ledger ∈ custody.ledger :: custody.passed, ledger.Private first
  ofChange : ∀ faults key value store, custody.store = some store →
    (custody.take directory (.change faults key value)).passed.map (·.disk) =
      custody.passed.map (·.disk) ++ (course faults store key value custody.ledger.disk).passed
  ofOpening : ∀ faults made result,
    custody.ledger.disk.tryDirectories faults.unmade directory = (result, made) →
    (custody.take directory (.opening faults)).passed.map (·.disk) =
      custody.passed.map (·.disk) ++ made :: if creates faults directory custody.ledger.disk then
        ((creation directory).run faults made).passed else []
  created : ∀ faults store left, creates faults directory custody.ledger.disk = true →
    Store.openIn faults directory custody.ledger.disk = (.ok store, left) →
    left.lookUp (joinPath directory settingsFile) = .ok (.file 0o600 (fileText defaults))
  changed : ∀ faults key value store after left, custody.store = some store →
    store.set faults key value custody.ledger.disk = (.ok (), after, left) →
    left.lookUp (joinPath directory settingsFile) = .ok (.file 0o600 (fileText after.document))
  failed : ∀ faults key value store error after left, custody.store = some store →
    store.set faults key value custody.ledger.disk = (.error error, after, left) →
    left.lookUp (joinPath directory settingsFile) =
      custody.ledger.disk.lookUp (joinPath directory settingsFile)

/-- However a data directory is opened and its store changed, and whatever is refused meanwhile, the
settings are in files that nobody else can read. -/
theorem run_keepsPrivate (directory : String) (first : Disk) (deeds : List Deed) :
    KeepsPrivate directory first ((begin first).run directory deeds) := by
  have guarded := guarded_run directory first deeds
  generalize (begin first).run directory deeds = custody at guarded ⊢
  constructor
  case passed => exact List.forall_mem_cons.mpr ⟨guarded.ledger, guarded.passed⟩
  case ofChange =>
    intro faults key value store held
    simp only [take, held, pass, List.map_append, Replacement.map_disk_ledgers]
    rfl
  case ofOpening =>
    intro faults made result tried
    have course : (openingLedgers faults directory custody.ledger).map (·.disk) =
        made :: if creates faults directory custody.ledger.disk then
          ((creation directory).run faults made).passed else [] := by
      unfold openingLedgers
      rw [tried]
      cases creates faults directory custody.ledger.disk with
      | false => rfl
      | true => exact congrArg (made :: ·) (Replacement.map_disk_ledgers _)
    rw [← course, ← List.map_append]
    rcases opened : Store.openIn faults directory custody.ledger.disk with ⟨error | store, left⟩
    · simp only [take, opened, pass]
    · simp only [take, opened, pass]
  case created =>
    intro faults store left creates opened
    obtain ⟨made, -, same, written⟩ := openIn_of_creates creates
    rw [opened] at same
    have left_eq : left = ((creation directory).run faults made).final := same
    rw [left_eq]
    exact lookUp_of_run (written store left opened)
  case changed =>
    intro faults key value store after left held done
    have isOpen := guarded.isOpen store held
    rcases set_eq isOpen faults key value custody.ledger.disk with ⟨quiet, same⟩ | ⟨_, _, same⟩
    · rw [same] at done
      cases done
      unfold course replacement at quiet ⊢
      rw [isOpen.path] at quiet ⊢
      exact lookUp_of_run quiet
    · rw [same] at done
      cases done
  case failed =>
    intro faults key value store error after left held failed
    have isOpen := guarded.isOpen store held
    rcases set_eq isOpen faults key value custody.ledger.disk with ⟨_, same⟩ | ⟨failure, _, same⟩
    · rw [same] at failed
      cases failed
    · rw [same] at failed
      cases failed
      have untouched := ((isOpen.replaced faults key value custody.ledger.disk).failed failure).1
      rw [isOpen.path] at untouched
      exact untouched

end Custody

end WebviewHost.Settings.Store
