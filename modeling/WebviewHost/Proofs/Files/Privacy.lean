import WebviewHost.Proofs.Files.Directories
import WebviewHost.Proofs.Files.Replacement

/-!
# What is written stays private

Replacements put bytes into files, at first into a temporary one. Beside the disk runs a record of
the places where such bytes are. Whatever is refused and wherever a replacement stops, a file in the
record is for its owner only, and any other file is as it was at first or empty.
-/

set_option autoImplicit false

namespace WebviewHost.Files

/-- A disk, and the places of the files in which there are bytes that replacements have put. -/
structure Ledger where
  disk : Disk
  written : Place → Prop

/-- What has been written is in files of mode 0600, and any other file is as it was on the first
disk or empty. -/
structure Ledger.Private (first : Disk) (ledger : Ledger) : Prop where
  written : ∀ place, ledger.written place →
    ∃ content, ledger.disk.entry? place = some (.file 0o600 content)
  unwritten : ∀ place mode content, ¬ledger.written place →
    ledger.disk.entry? place = some (.file mode content) →
      content = .empty ∨ first.entry? place = some (.file mode content)

theorem Ledger.Private.of_gains {first made : Disk} {ledger : Ledger} (kept : ledger.Private first)
    (gains : Disk.Gains ledger.disk made) : Ledger.Private first ⟨made, ledger.written⟩ := by
  constructor
  · intro place recorded
    obtain ⟨content, found⟩ := kept.written place recorded
    exact ⟨content, gains.kept place _ found⟩
  · intro place mode content unrecorded found
    cases before : ledger.disk.entry? place with
    | some entry =>
        have same := (gains.kept place entry before).symm.trans found
        exact kept.unwritten place mode content unrecorded (before.trans same)
    | none =>
        rcases gains.fresh place before with nothing | ⟨other, directory⟩
        · exact absurd (found.symm.trans nothing) (Option.some_ne_none _)
        · cases found.symm.trans directory

namespace Replacement

/-! ## The record -/

/-- Where written bytes are after an action. Opening the temporary file empties it, filling it
writes into it even if that is interrupted, and publishing takes along what is in it. -/
def recorded (replacement : Replacement) (ledger : Ledger) (step : WriteStep)
    (failure : Option Cause) : Place → Prop :=
  match ledger.disk.locate replacement.temporary, step, failure with
  | .ok draft, .openTemporary, none => fun place => place ≠ draft ∧ ledger.written place
  | .ok draft, .fill, _ => fun place => place = draft ∨ ledger.written place
  | .ok draft, .publish, none =>
      match ledger.disk.locate replacement.path with
      | .ok goal => fun place =>
          if place = goal then ledger.written draft else place ≠ draft ∧ ledger.written place
      | .error _ => ledger.written
  | _, _, _ => ledger.written

def tidied (replacement : Replacement) (faults : Faults) (ledger : Ledger) : Ledger :=
  -- A file that is gone holds nothing.
  let disk := replacement.tidy faults ledger.disk
  ⟨disk, fun place => ledger.written place ∧ disk.entry? place ≠ none⟩

/-- The ledgers that a replacement passes through after the one it begins with. -/
def ledgers (replacement : Replacement) (faults : Faults) : Ledger → List WriteStep → List Ledger
  | _, [] => []
  | ledger, step :: rest =>
      match replacement.act faults ledger.disk step with
      | (next, none) =>
          let ledger : Ledger := ⟨next, replacement.recorded ledger step none⟩
          ledger :: replacement.ledgers faults ledger rest
      | (next, some cause) =>
          let ledger : Ledger := ⟨next, replacement.recorded ledger step (some cause)⟩
          [ledger, replacement.tidied faults ledger]

variable {replacement : Replacement} {faults : Faults} {draft goal : Place}
  {first before now next : Disk} {written : Place → Prop} {step : WriteStep}
  {rest steps : List WriteStep} {cause : Cause}

theorem map_disk_ledgers (ledger : Ledger) :
    (replacement.ledgers faults ledger steps).map (·.disk) =
      (replacement.runSteps faults ledger.disk steps).passed := by
  induction steps generalizing ledger with
  | nil => rfl
  | cons step rest ih =>
      unfold ledgers runSteps
      rcases replacement.act faults ledger.disk step with ⟨next, _ | cause⟩
      · exact congrArg (next :: ·) (ih _)
      · rfl

theorem getLast_passed (disk : Disk) :
    (replacement.runSteps faults disk steps).passed.getLast?.getD disk =
      (replacement.runSteps faults disk steps).final := by
  induction steps generalizing disk with
  | nil => rfl
  | cons step rest ih =>
      unfold runSteps
      rcases replacement.act faults disk step with ⟨next, _ | cause⟩
      · rw [List.getLast?_cons]
        exact ih next
      · rfl

theorem getLast_ledgers (replacement : Replacement) (faults : Faults) (steps : List WriteStep)
    (ledger : Ledger) :
    ((replacement.ledgers faults ledger steps).getLast?.getD ledger).disk =
      (replacement.runSteps faults ledger.disk steps).final := by
  rw [← getLast_passed, ← map_disk_ledgers, List.getLast?_map, Option.getD_map]

/-! ## One action -/

/-- The record when certain actions are still ahead. -/
def Booked (draft goal : Place) (written : Place → Prop) : List WriteStep → Place → Prop
  | .openTemporary :: _, place => written place
  | .restrict :: _, place | .fill :: _, place => place ≠ draft ∧ written place
  | .sync :: _, place | .publish :: _, place => place = draft ∨ written place
  | [], place => place = goal ∨ (place ≠ draft ∧ written place)

theorem recorded_iff (placed : Placed replacement now draft goal)
    (stage : Stage replacement draft goal before (step :: rest) now) {record : Place → Prop}
    (booked : ∀ place, record place ↔ Booked draft goal written (step :: rest) place)
    (place : Place) :
    replacement.recorded ⟨now, record⟩ step none place ↔ Booked draft goal written rest place := by
  have located := placed.temporary
  have reached := placed.path
  cases stage with
  | start =>
      simp only [recorded, located, Booked, booked]
  | opened _ _ => simp only [recorded, located, Booked, booked]
  | restricted _ _ =>
      simp only [recorded, located, Booked, booked]
      by_cases own : place = draft <;> simp [own]
  | filled _ _ => simp only [recorded, located, Booked, booked]
  | synced _ _ =>
      simp only [recorded, located, reached, Booked, booked]
      by_cases same : place = goal
      · simp [same]
      · by_cases own : place = draft <;> simp [same, own]

end Replacement

theorem Ledger.Private.of_sameBut {first : Disk} {ledger : Ledger} {place : Place} {next : Disk}
    {written : Place → Prop} (kept : ledger.Private first)
    (same : Disk.SameBut place ledger.disk next)
    (elsewhere : ∀ other, other ≠ place → (written other ↔ ledger.written other))
    (owned : written place → ∃ content, next.entry? place = some (.file 0o600 content))
    (emptied : ¬written place → ∀ mode content, next.entry? place = some (.file mode content) →
      content = .empty) :
    Ledger.Private first ⟨next, written⟩ := by
  constructor
  · intro other recorded
    by_cases here : other = place
    · subst here
      exact owned recorded
    · obtain ⟨content, found⟩ := kept.written other ((elsewhere other here).mp recorded)
      exact ⟨content, (same.elsewhere other here).trans found⟩
  · intro other mode content unrecorded found
    by_cases here : other = place
    · subst here
      exact .inl (emptied unrecorded mode content found)
    · exact kept.unwritten other mode content
        (fun known => unrecorded ((elsewhere other here).mpr known))
        ((same.elsewhere other here).symm.trans found)

namespace Replacement

variable {replacement : Replacement} {faults : Faults} {draft goal : Place}
  {first before now next : Disk} {written record : Place → Prop} {step : WriteStep}
  {rest steps : List WriteStep} {cause : Cause}

theorem Stage.isPrivate (stage : Stage replacement draft goal before steps now)
    (kept : Ledger.Private first ⟨before, written⟩) :
    Ledger.Private first ⟨now, Booked draft goal written steps⟩ := by
  have apart : ∀ other, other ≠ draft → (other ≠ draft ∧ written other ↔ written other) :=
    fun other here => and_iff_right here
  have aside : ∀ other, other ≠ draft → (other = draft ∨ written other ↔ written other) :=
    fun other here => or_iff_right here
  cases stage with
  | start => exact kept
  | opened same found =>
      apply kept.of_sameBut same apart
      · exact fun here => absurd rfl here.1
      · intro _ mode content there
        rw [found] at there
        cases there
        rfl
  | restricted same found =>
      apply kept.of_sameBut same apart
      · exact fun here => absurd rfl here.1
      · intro _ mode content there
        rw [found] at there
        cases there
        rfl
  | filled same found =>
      apply kept.of_sameBut same aside
      · exact fun _ => ⟨_, found⟩
      · exact fun absent => absurd (.inl rfl) absent
  | synced same found =>
      apply kept.of_sameBut same aside
      · exact fun _ => ⟨_, found⟩
      · exact fun absent => absurd (.inl rfl) absent
  | published published =>
      constructor
      · rintro place (rfl | ⟨notDraft, recorded⟩)
        · exact ⟨_, published.file⟩
        · by_cases atGoal : place = goal
          · subst atGoal
            exact ⟨_, published.file⟩
          · obtain ⟨content, found⟩ := kept.written place recorded
            exact ⟨content, (published.elsewhere place notDraft atGoal).trans found⟩
      · intro place mode content unrecorded found
        have notGoal : place ≠ goal := fun here => unrecorded (.inl here)
        have notDraft : place ≠ draft := by
          rintro rfl
          rw [published.noDraft] at found
          cases found
        exact kept.unwritten place mode content
          (fun known => unrecorded (.inr ⟨notDraft, known⟩))
          ((published.elsewhere place notDraft notGoal).symm.trans found)

theorem tidy_kept_or_gone (replacement : Replacement) (faults : Faults) (disk : Disk)
    (place : Place) :
    Disk.entry? (replacement.tidy faults disk) place = disk.entry? place ∨
      Disk.entry? (replacement.tidy faults disk) place = none := by
  unfold tidy
  cases faults.stuck with
  | some cause => exact .inl rfl
  | none =>
      simp only [Disk.removeFile]
      cases disk.locate replacement.temporary with
      | error cause => exact .inl rfl
      | ok draft =>
          simp only [bind, Except.bind]
          cases found : disk.entry? draft with
          | none => exact .inl rfl
          | some entry =>
              cases entry with
              | directory mode => exact .inl rfl
              | file mode content =>
                  have below : draft ≠ [] := by
                    rintro rfl
                    cases found
                  show Disk.entry? (disk.drop draft) place = _ ∨
                    Disk.entry? (disk.drop draft) place = _
                  rw [Disk.entry?_drop disk below]
                  split
                  · exact .inr rfl
                  · exact .inl rfl

theorem private_tidied {ledger : Ledger} (kept : ledger.Private first) :
    (replacement.tidied faults ledger).Private first := by
  constructor
  · rintro place ⟨recorded, there⟩
    obtain ⟨content, found⟩ := kept.written place recorded
    have still :=
      (tidy_kept_or_gone replacement faults ledger.disk place).resolve_right there
    exact ⟨content, still.trans found⟩
  · intro place mode content unrecorded found
    have there : Disk.entry? (replacement.tidy faults ledger.disk) place ≠ none :=
      fun gone => Option.some_ne_none _ (found.symm.trans gone)
    have still :=
      (tidy_kept_or_gone replacement faults ledger.disk place).resolve_right there
    exact kept.unwritten place mode content (fun known => unrecorded ⟨known, there⟩)
      (still.symm.trans found)

theorem Stage.isPrivate_failed (placed : Placed replacement before draft goal)
    (stage : Stage replacement draft goal before (step :: rest) now)
    (kept : Ledger.Private first ⟨before, written⟩)
    (booked : ∀ place, record place ↔ Booked draft goal written (step :: rest) place)
    (acted : replacement.act faults now step = (next, some cause)) :
    Ledger.Private first ⟨next, replacement.recorded ⟨now, record⟩ step (some cause)⟩ := by
  have whole : record = Booked draft goal written (step :: rest) :=
    funext fun place => propext (booked place)
  have here := stage.isPrivate kept
  have located := (placed.of_sameTree stage.sameBut.toSameTree).temporary
  subst whole
  by_cases filling : step = .fill
  · subst filling
    -- Whatever has reached the temporary file is in a file that has been restricted before.
    have partly : ∃ content, Disk.SameBut draft now next ∧
        next.entry? draft = some (.file privateMode content) := by
      cases stage with
      | restricted same found =>
          rcases act_failed_cases acted with rfl | rfl
          · have still := placed.of_sameTree same.toSameTree
            rw [interrupted, setContent_draft still found]
            exact ⟨_, put_draft found⟩
          · exact ⟨_, .refl draft next, found⟩
    obtain ⟨content, same, found⟩ := partly
    have record : replacement.recorded ⟨now, Booked draft goal written (.fill :: rest)⟩ .fill
        (some cause) = fun place => place = draft ∨ place ≠ draft ∧ written place := by
      simp only [recorded, located, Booked]
    rw [record]
    apply here.of_sameBut same
    · exact fun other apart => or_iff_right apart
    · exact fun _ => ⟨content, found⟩
    · exact fun absent => absurd (.inl rfl) absent
  · have unchanged : next = now := by
      rcases act_failed_cases acted with rfl | rfl
      · cases step with
        | fill => exact absurd rfl filling
        | _ => rfl
      · rfl
    subst unchanged
    have quiet : replacement.recorded ⟨next, Booked draft goal written (step :: rest)⟩ step
        (some cause) = Booked draft goal written (step :: rest) := by
      cases step with
      | fill => exact absurd rfl filling
      | _ => simp only [recorded, located]
    rw [quiet]
    exact here

/-! ## Whole replacements -/

theorem Stage.private_ledgers (placed : Placed replacement before draft goal)
    (stage : Stage replacement draft goal before steps now)
    (kept : Ledger.Private first ⟨before, written⟩)
    (booked : ∀ place, record place ↔ Booked draft goal written steps place) :
    ∀ ledger ∈ replacement.ledgers faults ⟨now, record⟩ steps, ledger.Private first := by
  -- The stage and the record go along with the actions still ahead.
  induction steps generalizing now record with
  | nil => exact List.forall_mem_nil _
  | cons step rest ih =>
      unfold ledgers
      rcases acted : replacement.act faults now step with ⟨next, _ | cause⟩
      · have nextStage := act_done placed stage acted
        have still := placed.of_sameTree stage.sameBut.toSameTree
        have nextBooked := recorded_iff still stage booked
        have whole : replacement.recorded ⟨now, record⟩ step none =
            Booked draft goal written rest := funext fun place => propext (nextBooked place)
        refine List.forall_mem_cons.mpr ⟨?_, ih nextStage nextBooked⟩
        rw [whole]
        exact nextStage.isPrivate kept
      · have failed := stage.isPrivate_failed placed kept booked acted
        exact List.forall_mem_cons.mpr
          ⟨failed, List.forall_mem_singleton.mpr (private_tidied failed)⟩

/-- A replacement keeps what has been written private at every point, whatever is refused. -/
theorem private_ledgers {ledger : Ledger} (kept : ledger.Private first)
    (placed : ∀ draft, ledger.disk.locate replacement.temporary = .ok draft →
      ∃ goal, Placed replacement ledger.disk draft goal) :
    ∀ point ∈ replacement.ledgers faults ledger writeSteps, point.Private first := by
  cases located : ledger.disk.locate replacement.temporary with
  | ok draft =>
      obtain ⟨goal, places⟩ := placed draft located
      exact Stage.start.private_ledgers places kept fun place => Iff.rfl
  | error cause =>
      -- Without a place for the temporary file nothing is done.
      obtain ⟨reason, acted⟩ := act_of_unplaced located faults
      have unrecorded :
          replacement.recorded ledger .openTemporary (some reason) = ledger.written := by
        simp only [recorded, located]
      unfold writeSteps ledgers
      rw [acted]
      dsimp only
      rw [unrecorded]
      exact List.forall_mem_cons.mpr ⟨kept, List.forall_mem_singleton.mpr (private_tidied kept)⟩

end Replacement

end WebviewHost.Files
