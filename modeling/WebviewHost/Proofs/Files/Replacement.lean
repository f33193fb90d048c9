import WebviewHost.Proofs.Files.Disk

/-!
# Replacements are all or nothing

A replacement passes through its five actions with the file as it was until the last of them, which
puts the whole content in place at once. Wherever it stops before, the file is untouched and only
the temporary file may have changed.
-/

set_option autoImplicit false

namespace WebviewHost.Files.Replacement

/-- Where the two files of a replacement are. -/
structure Placed (replacement : Replacement) (disk : Disk) (draft goal : Place) : Prop where
  temporary : disk.locate replacement.temporary = .ok draft
  path : disk.locate replacement.path = .ok goal
  openTemporary : endsInSlash replacement.temporary = false
  openPath : endsInSlash replacement.path = false
  apart : draft ≠ goal

theorem Placed.of_sameTree {replacement : Replacement} {before after : Disk} {draft goal : Place}
    (placed : Placed replacement before draft goal) (same : Disk.SameTree before after) :
    Placed replacement after draft goal :=
  ⟨same.locate_ok placed.openTemporary placed.temporary, same.locate_ok placed.openPath placed.path,
    placed.openTemporary, placed.openPath, placed.apart⟩

/-- The result of a complete replacement: the file holds the content and is private, the temporary
file is gone, and nothing else has changed. -/
structure Published (replacement : Replacement) (draft goal : Place) (before after : Disk) : Prop
    extends Disk.SameTree before after where
  file : after.entry? goal = some (.file privateMode replacement.content)
  noDraft : after.entry? draft = none
  elsewhere : ∀ other, other ≠ draft → other ≠ goal → after.entry? other = before.entry? other

/-- How far a replacement has come when certain actions are still ahead of it. What is written into
the temporary file is written while nobody else may read it. -/
inductive Stage (replacement : Replacement) (draft goal : Place) (before : Disk) :
    List WriteStep → Disk → Prop where
  | start :
      Stage replacement draft goal before [.openTemporary, .restrict, .fill, .sync, .publish] before
  | opened {now : Disk} {mode : Nat} :
      Disk.SameBut draft before now → now.entry? draft = some (.file mode .empty) →
      Stage replacement draft goal before [.restrict, .fill, .sync, .publish] now
  | restricted {now : Disk} :
      Disk.SameBut draft before now → now.entry? draft = some (.file privateMode .empty) →
      Stage replacement draft goal before [.fill, .sync, .publish] now
  | filled {now : Disk} :
      Disk.SameBut draft before now →
      now.entry? draft = some (.file privateMode replacement.content) →
      Stage replacement draft goal before [.sync, .publish] now
  | synced {now : Disk} :
      Disk.SameBut draft before now →
      now.entry? draft = some (.file privateMode replacement.content) →
      Stage replacement draft goal before [.publish] now
  | published {now : Disk} :
      Published replacement draft goal before now → Stage replacement draft goal before [] now

section Steps

variable {replacement : Replacement} {draft goal : Place} {before now next : Disk}

private theorem free_of_file {disk : Disk} {place : Place} {mode : Nat} {content : ByteArray}
    (found : disk.entry? place = some (.file mode content)) : disk.holdsDirectory place = false := by
  unfold Disk.holdsDirectory
  rw [found]

private theorem free_of_none {disk : Disk} {place : Place}
    (found : disk.entry? place = none) : disk.holdsDirectory place = false := by
  unfold Disk.holdsDirectory
  rw [found]

theorem perform_openTemporary (placed : Placed replacement now draft goal)
    (performed : replacement.perform now .openTemporary = .ok next) :
    Disk.SameBut draft now next ∧ ∃ mode, next.entry? draft = some (.file mode .empty) := by
  simp only [perform, Disk.openTruncated, placed.temporary, bind, Except.bind] at performed
  cases found : now.entry? draft with
  | none =>
      have free := free_of_none found
      simp only [found, placed.openTemporary, Bool.false_eq_true, if_false, Except.map,
        Except.ok.injEq] at performed
      subst performed
      exact ⟨.put_file free _ _, _,
        by rw [Disk.entry?_put now (Disk.ne_nil_of_not_holdsDirectory free), if_pos rfl]⟩
  | some entry =>
      cases entry with
      | directory mode => simp [found, Except.map] at performed
      | file mode content =>
          have free := free_of_file found
          simp only [found, Except.map, Except.ok.injEq] at performed
          subst performed
          exact ⟨.put_file free _ _, _,
            by rw [Disk.entry?_put now (Disk.ne_nil_of_not_holdsDirectory free), if_pos rfl]⟩

theorem put_draft {mode newMode : Nat} {content newContent : ByteArray}
    (found : now.entry? draft = some (.file mode content)) :
    Disk.SameBut draft now (now.put draft (.file newMode newContent)) ∧
      Disk.entry? (now.put draft (.file newMode newContent)) draft =
        some (.file newMode newContent) := by
  have free := free_of_file found
  exact ⟨.put_file free _ _,
    by rw [Disk.entry?_put now (Disk.ne_nil_of_not_holdsDirectory free), if_pos rfl]⟩

private theorem setMode_draft {mode newMode : Nat} {content : ByteArray}
    (placed : Placed replacement now draft goal)
    (found : now.entry? draft = some (.file mode content)) :
    replacement.onTemporary now (now.setMode · newMode) =
      now.put draft (.file newMode content) := by
  simp [onTemporary, placed.temporary, Disk.setMode, found]

theorem setContent_draft {mode : Nat} {content newContent : ByteArray}
    (placed : Placed replacement now draft goal)
    (found : now.entry? draft = some (.file mode content)) :
    replacement.onTemporary now (now.setContent · newContent) =
      now.put draft (.file mode newContent) := by
  simp [onTemporary, placed.temporary, Disk.setContent, found]

theorem perform_publish (placed : Placed replacement now draft goal)
    (found : now.entry? draft = some (.file privateMode replacement.content))
    (performed : replacement.perform now .publish = .ok next) :
    Published replacement draft goal now next := by
  have below := Disk.ne_nil_of_not_holdsDirectory (free_of_file found)
  simp only [perform, Disk.rename, placed.temporary, placed.path, bind, Except.bind, found]
    at performed
  have free : now.holdsDirectory goal = false := by
    cases there : now.entry? goal with
    | none => exact free_of_none there
    | some entry =>
        cases entry with
        | file mode content => exact free_of_file there
        | directory mode => simp [there] at performed
  have belowGoal := Disk.ne_nil_of_not_holdsDirectory free
  have result : next =
      (now.drop draft).put goal (.file privateMode replacement.content) := by
    unfold Disk.holdsDirectory at free
    split at performed <;> simp_all
  have entries : ∀ other, next.entry? other =
      if other = goal then some (.file privateMode replacement.content)
      else if other = draft then none else now.entry? other := by
    intro other
    rw [result, Disk.entry?_put _ belowGoal, Disk.entry?_drop _ below]
  refine ⟨⟨fun place => ?_, by rw [result]; rfl⟩, ?_, ?_, ?_⟩
  · by_cases atGoal : place = goal
    · subst atGoal
      rw [free]
      unfold Disk.holdsDirectory
      rw [entries, if_pos rfl]
    · by_cases atDraft : place = draft
      · subst atDraft
        rw [free_of_file found]
        unfold Disk.holdsDirectory
        rw [entries, if_neg atGoal, if_pos rfl]
      · unfold Disk.holdsDirectory
        rw [entries, if_neg atGoal, if_neg atDraft]
  · rw [entries, if_pos rfl]
  · rw [entries, if_neg placed.apart, if_pos rfl]
  · intro other notDraft notGoal
    rw [entries, if_neg notGoal, if_neg notDraft]

theorem Stage.sameBut {step : WriteStep} {rest : List WriteStep}
    (stage : Stage replacement draft goal before (step :: rest) now) :
    Disk.SameBut draft before now := by
  cases stage with
  | start => exact .refl draft before
  | opened same _ => exact same
  | restricted same _ => exact same
  | filled same _ => exact same
  | synced same _ => exact same

theorem Stage.sameBut_or_published {steps : List WriteStep}
    (stage : Stage replacement draft goal before steps now) :
    Disk.SameBut draft before now ∨ Published replacement draft goal before now := by
  cases steps with
  | cons step rest => exact .inl stage.sameBut
  | nil =>
      cases stage with
      | published published => exact .inr published

/-- A failed action leaves the disk as it is unless it was interrupted. -/
theorem act_failed_cases {faults : Faults} {step : WriteStep} {cause : Cause}
    (acted : replacement.act faults now step = (next, some cause)) :
    next = replacement.interrupted faults now step ∨ next = now := by
  unfold act at acted
  cases refused : faults.refused step with
  | some given =>
      rw [refused] at acted
      cases acted
      exact .inl rfl
  | none =>
      rw [refused] at acted
      cases performed : replacement.perform now step with
      | ok done => simp [performed] at acted
      | error reason =>
          rw [performed] at acted
          cases acted
          exact .inr rfl

theorem act_failed {faults : Faults} {step : WriteStep} {rest : List WriteStep} {cause : Cause}
    (placed : Placed replacement before draft goal)
    (stage : Stage replacement draft goal before (step :: rest) now)
    (acted : replacement.act faults now step = (next, some cause)) :
    Disk.SameBut draft before next := by
  have same := stage.sameBut
  refine same.trans ?_
  rcases act_failed_cases acted with rfl | rfl
  · -- Only an interrupted filling leaves anything behind.
    cases stage with
    | restricted _ found =>
        have here := placed.of_sameTree same.toSameTree
        rw [interrupted, setContent_draft here found]
        exact (put_draft found).1
    | start => exact .refl draft before
    | opened _ _ => exact .refl draft now
    | filled _ _ => exact .refl draft now
    | synced _ _ => exact .refl draft now
  · exact .refl draft next

theorem act_done {faults : Faults} {step : WriteStep} {rest : List WriteStep}
    (placed : Placed replacement before draft goal)
    (stage : Stage replacement draft goal before (step :: rest) now)
    (acted : replacement.act faults now step = (next, none)) :
    Stage replacement draft goal before rest next := by
  have performed : replacement.perform now step = .ok next := by
    unfold act at acted
    cases refused : faults.refused step with
    | some cause => simp [refused] at acted
    | none =>
        rw [refused] at acted
        cases result : replacement.perform now step with
        | error cause => simp [result] at acted
        | ok done =>
            rw [result] at acted
            cases acted
            rfl
  cases stage with
  | start =>
      obtain ⟨same, mode, found⟩ := perform_openTemporary placed performed
      exact .opened same found
  | opened same found =>
      have here := placed.of_sameTree same.toSameTree
      rw [perform, setMode_draft here found] at performed
      cases performed
      exact .restricted (same.trans (put_draft found).1) (put_draft found).2
  | restricted same found =>
      have here := placed.of_sameTree same.toSameTree
      rw [perform, setContent_draft here found] at performed
      cases performed
      exact .filled (same.trans (put_draft found).1) (put_draft found).2
  | filled same found =>
      cases performed
      exact .synced same found
  | synced same found =>
      have here := placed.of_sameTree same.toSameTree
      have last := perform_publish here found performed
      exact .published ⟨same.toSameTree.trans last.toSameTree, last.file, last.noDraft,
        fun other notDraft notGoal =>
          (last.elsewhere other notDraft notGoal).trans (same.elsewhere other notDraft)⟩

theorem tidy_spec (faults : Faults) (placed : Placed replacement now draft goal) :
    Disk.SameBut draft now (replacement.tidy faults now) ∧
      (faults.stuck = none → ∀ mode content,
        Disk.entry? (replacement.tidy faults now) draft ≠ some (.file mode content)) := by
  unfold tidy
  cases stuck : faults.stuck with
  | some cause => exact ⟨.refl draft now, fun free => by cases free⟩
  | none =>
      simp only [Disk.removeFile, placed.temporary, bind, Except.bind]
      cases found : now.entry? draft with
      | none => exact ⟨.refl draft now, fun _ mode content there => by
          simp [Except.toOption, found] at there⟩
      | some entry =>
          cases entry with
          | directory mode =>
              exact ⟨.refl draft now, fun _ other content there => by
              simp [Except.toOption, found] at there⟩
          | file mode content =>
              have free := free_of_file found
              refine ⟨.drop free, fun _ other newContent there => ?_⟩
              have gone := Disk.entry?_drop now (Disk.ne_nil_of_not_holdsDirectory free) draft
              rw [if_pos rfl] at gone
              exact Option.some_ne_none _ (there.symm.trans gone)

end Steps

/-! ## Whole runs -/

/-- What is true of a course: on failure only the temporary file may have changed and it is gone if
it can be removed, on success the content is published, and at every point in between one of the
two holds. -/
structure AllOrNothing (replacement : Replacement) (faults : Faults) (draft goal : Place)
    (before : Disk) (course : Course) : Prop where
  failed : course.failure ≠ none → Disk.SameBut draft before course.final ∧
    (faults.stuck = none → ∀ mode content,
      course.final.entry? draft ≠ some (.file mode content))
  done : course.failure = none → Published replacement draft goal before course.final
  between : ∀ point ∈ course.passed,
    Disk.SameBut draft before point ∨ Published replacement draft goal before point

theorem Stage.allOrNothing {replacement : Replacement} {draft goal : Place} {before now : Disk}
    {steps : List WriteStep} (placed : Placed replacement before draft goal)
    (stage : Stage replacement draft goal before steps now) (faults : Faults) :
    AllOrNothing replacement faults draft goal before
      (replacement.runSteps faults now steps) := by
  -- The stage is the invariant: it is indexed by the actions still ahead.
  induction steps generalizing now with
  | nil =>
      cases stage with
      | published published =>
          exact ⟨fun failed => absurd rfl failed, fun _ => published, by simp [runSteps]⟩
  | cons step rest ih =>
      unfold runSteps
      rcases acted : replacement.act faults now step with ⟨next, _ | cause⟩
      · have nextStage := act_done placed stage acted
        have rest := ih nextStage
        refine ⟨rest.failed, rest.done, fun point member => ?_⟩
        rcases List.mem_cons.mp member with rfl | later
        · -- The disk after this action is itself at a stage.
          exact nextStage.sameBut_or_published
        · exact rest.between point later
      · have same := act_failed placed stage acted
        have tidied := tidy_spec faults (placed.of_sameTree same.toSameTree)
        have whole := same.trans tidied.1
        refine ⟨fun _ => ⟨whole, tidied.2⟩, fun done => by simp at done, fun point member => ?_⟩
        simp only [List.mem_cons, List.not_mem_nil, or_false] at member
        rcases member with rfl | rfl
        · exact .inl same
        · exact .inl whole

/-- A replacement is all or nothing, whatever goes wrong. -/
theorem run_allOrNothing {replacement : Replacement} {draft goal : Place} {disk : Disk}
    (placed : Placed replacement disk draft goal) (faults : Faults) :
    AllOrNothing replacement faults draft goal disk (replacement.run faults disk) :=
  Stage.start.allOrNothing placed faults

/-- An action that is not refused works, as long as no directory is in the way of either file. -/
theorem act_succeeds {replacement : Replacement} {faults : Faults} {draft goal : Place}
    {before now : Disk} {step : WriteStep} {rest : List WriteStep}
    (placed : Placed replacement before draft goal)
    (freeDraft : before.holdsDirectory draft = false)
    (freeGoal : before.holdsDirectory goal = false)
    (stage : Stage replacement draft goal before (step :: rest) now)
    (allowed : faults.refused step = none) :
    ∃ next, replacement.act faults now step = (next, none) := by
  have performed : ∃ next, replacement.perform now step = .ok next := by
    cases stage with
    | start =>
        simp only [perform, Disk.openTruncated, placed.temporary, bind, Except.bind]
        unfold Disk.holdsDirectory at freeDraft
        cases found : before.entry? draft with
        | none => exact ⟨_, by simp [placed.openTemporary, Except.map]; rfl⟩
        | some entry =>
            cases entry with
            | file mode content => exact ⟨_, rfl⟩
            | directory mode => simp [found] at freeDraft
    | opened same found => exact ⟨_, rfl⟩
    | restricted same found => exact ⟨_, rfl⟩
    | filled same found => exact ⟨_, rfl⟩
    | synced same found =>
        have here := placed.of_sameTree same.toSameTree
        have free := (same.toSameTree.directories goal).trans freeGoal
        simp only [perform, Disk.rename, here.temporary, here.path, bind, Except.bind, found]
        unfold Disk.holdsDirectory at free
        cases there : now.entry? goal with
        | none => exact ⟨_, rfl⟩
        | some entry =>
            cases entry with
            | file mode content => exact ⟨_, rfl⟩
            | directory mode => simp [there] at free
  obtain ⟨next, performed⟩ := performed
  exact ⟨next, by simp only [act, allowed, performed]⟩

/-- A replacement of which nothing is refused works, as long as no directory is in the way of either
file. -/
theorem run_succeeds {replacement : Replacement} {faults : Faults} {draft goal : Place} {disk : Disk}
    (placed : Placed replacement disk draft goal)
    (freeDraft : disk.holdsDirectory draft = false) (freeGoal : disk.holdsDirectory goal = false)
    (allowed : ∀ step, faults.refused step = none) :
    (replacement.run faults disk).failure = none := by
  have general : ∀ (steps : List WriteStep) (now : Disk),
      Stage replacement draft goal disk steps now →
        (replacement.runSteps faults now steps).failure = none := by
    intro steps
    induction steps with
    | nil => exact fun now stage => rfl
    | cons step rest ih =>
        intro now stage
        obtain ⟨next, acted⟩ := act_succeeds placed freeDraft freeGoal stage (allowed step)
        unfold runSteps
        rw [acted]
        exact ih next (act_done placed stage acted)
  exact general writeSteps disk .start

theorem run_refused {replacement : Replacement} {faults : Faults} {step : WriteStep} {cause : Cause}
    (refused : faults.refused step = some cause) (disk : Disk) :
    (replacement.run faults disk).failure ≠ none := by
  have general : ∀ (steps : List WriteStep) (now : Disk), step ∈ steps →
      (replacement.runSteps faults now steps).failure ≠ none := by
    intro steps
    induction steps with
    | nil => exact fun now member => absurd member List.not_mem_nil
    | cons first rest ih =>
        intro now member
        unfold runSteps
        rcases acted : replacement.act faults now first with ⟨next, _ | reason⟩
        · rcases List.mem_cons.mp member with rfl | later
          · simp [act, refused] at acted
          · exact ih next later
        · exact Option.some_ne_none _
  exact general writeSteps disk (by cases step <;> decide)

theorem act_of_unplaced {replacement : Replacement} {disk : Disk} {cause : Cause}
    (nowhere : disk.locate replacement.temporary = .error cause) (faults : Faults) :
    ∃ reason, replacement.act faults disk .openTemporary = (disk, some reason) := by
  unfold act
  cases faults.refused .openTemporary with
  | some reason => exact ⟨reason, rfl⟩
  | none =>
      exact ⟨cause, by
        simp [perform, Disk.openTruncated, nowhere, bind, Except.bind, Except.map]⟩

/-- Where there is no place for the temporary file, a replacement fails at once and nothing
happens. -/
theorem run_of_unplaced {replacement : Replacement} {disk : Disk} {cause : Cause}
    (nowhere : disk.locate replacement.temporary = .error cause) (faults : Faults) :
    (replacement.run faults disk).failure ≠ none ∧ (replacement.run faults disk).final = disk ∧
      ∀ point ∈ (replacement.run faults disk).passed, point = disk := by
  have tidied : replacement.tidy faults disk = disk := by
    unfold tidy
    split
    · rfl
    · simp [Disk.removeFile, nowhere, bind, Except.bind, Except.toOption]
  obtain ⟨reason, acted⟩ := act_of_unplaced nowhere faults
  simp [run, writeSteps, runSteps, acted, tidied]

end WebviewHost.Files.Replacement
