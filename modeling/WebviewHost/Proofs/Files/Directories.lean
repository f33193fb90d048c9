import WebviewHost.Proofs.Files.Disk

/-!
# Directories that are there already

Making a directory succeeds only if it is there afterwards, and then making it again changes
nothing.
-/

set_option autoImplicit false

namespace WebviewHost.Files.Disk

variable {before after : Disk} {start : Place} {names : List String}

theorem leadsToDirectory_iff {disk : Disk} :
    disk.leadsToDirectory start names = true ↔
      ∃ place, disk.follow start names = .ok place ∧ disk.holdsDirectory place = true := by
  unfold leadsToDirectory
  cases disk.follow start names with
  | error cause => simp
  | ok place =>
      refine ⟨fun there => ⟨place, rfl, there⟩, ?_⟩
      rintro ⟨_, ⟨⟩, there⟩
      exact there

theorem Grows.leadsToDirectory (grows : Grows before after)
    (leads : before.leadsToDirectory start names = true) :
    after.leadsToDirectory start names = true := by
  obtain ⟨place, reached, there⟩ := leadsToDirectory_iff.mp leads
  exact leadsToDirectory_iff.mpr ⟨place, grows.follow_ok reached, grows.directories place there⟩

/-- Nothing is lost from one file tree to another, and what is new are directories. -/
structure Gains (before after : Disk) : Prop where
  kept : ∀ place entry, before.entry? place = some entry → after.entry? place = some entry
  fresh : ∀ place, before.entry? place = none →
    after.entry? place = none ∨ ∃ mode, after.entry? place = some (.directory mode)
  umask : after.umask = before.umask
  workingDirectory : after.workingDirectory = before.workingDirectory

namespace Gains

variable {middle : Disk}

theorem refl (disk : Disk) : Gains disk disk := ⟨fun _ _ found => found, fun _ => .inl, rfl, rfl⟩

theorem trans (first : Gains before middle) (second : Gains middle after) : Gains before after := by
  refine ⟨fun place entry found => ?_, fun place nothing => ?_, second.umask.trans first.umask,
    second.workingDirectory.trans first.workingDirectory⟩
  · exact second.kept place entry (first.kept place entry found)
  · rcases first.fresh place nothing with still | ⟨mode, made⟩
    · exact second.fresh place still
    · exact .inr ⟨mode, second.kept place _ made⟩

theorem grows (gains : Gains before after) : Grows before after := by
  refine ⟨fun place there => ?_, gains.workingDirectory⟩
  obtain ⟨mode, found⟩ := holdsDirectory_eq_true_iff.mp there
  exact holdsDirectory_eq_true_iff.mpr ⟨mode, gains.kept place _ found⟩

end Gains

theorem makeDirectory_ok (made : before.makeDirectory start names = .ok after) :
    Gains before after ∧ after.leadsToDirectory start names = true := by
  unfold makeDirectory at made
  cases reached : before.follow start names with
  | error cause => simp [reached, bind, Except.bind] at made
  | ok place =>
      simp only [reached, bind, Except.bind] at made
      cases found : before.entry? place with
      | some entry => simp [found] at made
      | none =>
          simp only [found, Except.ok.injEq] at made
          have below : place ≠ [] := by
            rintro rfl
            cases found
          have entries : ∀ other, after.entry? other =
              if other = place then some (.directory (before.maskedMode 0o777))
              else before.entry? other := by
            intro other
            rw [← made, entry?_put before below]
          have gains : Gains before after := by
            refine ⟨fun other entry there => ?_, fun other nothing => ?_, by rw [← made]; rfl,
              by rw [← made]; rfl⟩
            · have apart : other ≠ place := by
                rintro rfl
                exact Option.some_ne_none entry (there.symm.trans found)
              rw [entries, if_neg apart, there]
            · rw [entries]
              split
              · exact .inr ⟨_, rfl⟩
              · exact .inl nothing
          have here : after.holdsDirectory place = true :=
            holdsDirectory_eq_true_iff.mpr ⟨_, by rw [entries, if_pos rfl]⟩
          exact ⟨gains, leadsToDirectory_iff.mpr ⟨place, gains.grows.follow_ok reached, here⟩⟩

theorem tryDirectory_spec (disk : Disk) (refused : Option Cause) (start : Place)
    (names : List String) :
    Gains disk (disk.tryDirectory refused start names).2 ∧
      ((disk.tryDirectory refused start names).1 = .ok () →
        (disk.tryDirectory refused start names).2.leadsToDirectory start names = true) := by
  unfold tryDirectory
  cases attempt : disk.makeDirectory start names with
  | error cause =>
      refine ⟨.refl disk, fun fine => ?_⟩
      dsimp only at fine ⊢
      split at fine
      · assumption
      · cases fine
  | ok made =>
      obtain ⟨gains, leads⟩ := makeDirectory_ok attempt
      cases refused with
      | none => exact ⟨gains, fun _ => leads⟩
      | some cause => exact ⟨.refl disk, fun fine => by cases fine⟩

theorem makeDirectoriesUp_spec (disk : Disk) (refused : List String → Option Cause) (start : Place)
    (names : List String) :
    Gains disk (disk.makeDirectoriesUp refused start names).2 ∧
      ((disk.makeDirectoriesUp refused start names).1 = .ok () → names = [] ∨
        (disk.makeDirectoriesUp refused start names).2.leadsToDirectory start names.reverse =
          true) := by
  induction names generalizing disk with
  | nil => exact ⟨.refl disk, fun _ => .inl rfl⟩
  | cons name above ih =>
      have attempted := fun middle : Disk =>
        tryDirectory_spec middle (refused (name :: above).reverse) start (name :: above).reverse
      simp only [makeDirectoriesUp]
      split
      · obtain ⟨grown, -⟩ := ih disk
        rcases upper : disk.makeDirectoriesUp refused start above with ⟨cause | ⟨⟩, middle⟩
        · rw [upper] at grown
          exact ⟨grown, fun fine => by cases fine⟩
        · rw [upper] at grown
          obtain ⟨gains, leads⟩ := attempted middle
          exact ⟨grown.trans gains, fun fine => .inr (leads fine)⟩
      · obtain ⟨gains, leads⟩ := attempted disk
        exact ⟨gains, fun fine => .inr (leads fine)⟩

theorem gains_tryDirectories (disk : Disk) (refused : List String → Option Cause) (path : String) :
    Gains disk (disk.tryDirectories refused path).2 := by
  unfold tryDirectories
  split
  · exact .refl disk
  · split
    · exact .refl disk
    · exact (makeDirectoriesUp_spec disk refused _ _).1

theorem makeDirectoriesUp_of_leads {disk : Disk} {refused : List String → Option Cause}
    (leads : names = [] ∨ disk.leadsToDirectory start names.reverse = true) :
    disk.makeDirectoriesUp refused start names = (.ok (), disk) := by
  cases names with
  | nil => rfl
  | cons name above =>
      have there : disk.leadsToDirectory start (name :: above).reverse = true :=
        leads.resolve_left (List.cons_ne_nil name above)
      obtain ⟨place, reached, directory⟩ := leadsToDirectory_iff.mp there
      obtain ⟨mode, entry⟩ := holdsDirectory_eq_true_iff.mp directory
      have exists_ : disk.makeDirectory start (name :: above).reverse = .error .alreadyExists := by
        simp only [makeDirectory, reached, bind, Except.bind, entry]
      simp only [makeDirectoriesUp, tryDirectory, exists_, there, if_true]

/-- Directories that have been made are made again without a change, as long as no directory has gone
since. -/
theorem tryDirectories_again {path : String} {refused again : List String → Option Cause}
    {later : Disk} (made : before.tryDirectories refused path = (.ok (), after))
    (grows : Grows after later) : later.tryDirectories again path = (.ok (), later) := by
  unfold tryDirectories at made ⊢
  split at made
  · cases made
  · split at made
    · cases made
    · obtain ⟨gains, leads⟩ := makeDirectoriesUp_spec before refused (before.startOf path)
        ((pathNames path).filter (· ≠ ".")).reverse
      rw [made] at gains leads
      rw [if_neg (by assumption), if_neg (by assumption), (gains.grows.trans grows).startOf]
      exact makeDirectoriesUp_of_leads ((leads rfl).imp id grows.leadsToDirectory)

theorem makeDirectories_eq_ok_iff {disk made : Disk} {path : String} :
    disk.makeDirectories path = .ok made ↔
      disk.tryDirectories (fun _ => none) path = (.ok (), made) := by
  unfold makeDirectories
  rcases disk.tryDirectories (fun _ => none) path with ⟨_ | _, left⟩ <;> simp

theorem tryDirectory_unrefused {refused : Option Cause}
    (made : before.tryDirectory refused start names = (.ok (), after)) :
    before.tryDirectory none start names = (.ok (), after) := by
  unfold tryDirectory at made ⊢
  cases attempt : before.makeDirectory start names with
  | error cause =>
      rw [attempt] at made
      exact made
  | ok directory =>
      rw [attempt] at made
      cases refused with
      | none => exact made
      | some cause => cases made

theorem makeDirectoriesUp_unrefused {refused : List String → Option Cause}
    (made : before.makeDirectoriesUp refused start names = (.ok (), after)) :
    before.makeDirectoriesUp (fun _ => none) start names = (.ok (), after) := by
  induction names generalizing after with
  | nil => exact made
  | cons name above ih =>
      simp only [makeDirectoriesUp] at made ⊢
      split at made
      · rcases upper : before.makeDirectoriesUp refused start above with ⟨cause | _, middle⟩
        · rw [upper] at made
          cases made
        · rw [upper] at made
          rw [ih upper]
          exact tryDirectory_unrefused made
      · exact tryDirectory_unrefused made

/-- If directories could be made although some may be refused, none of them was. -/
theorem makeDirectories_of_tryDirectories {refused : List String → Option Cause} {path : String}
    (made : before.tryDirectories refused path = (.ok (), after)) :
    before.makeDirectories path = .ok after := by
  rw [makeDirectories_eq_ok_iff]
  unfold tryDirectories at made ⊢
  split at made
  · cases made
  · split at made
    · cases made
    · rw [if_neg (by assumption), if_neg (by assumption)]
      exact makeDirectoriesUp_unrefused made

/-! ## Directories that hold a file -/

theorem eq_of_step_dot {disk : Disk} {here there : Place}
    (stepped : disk.step here "." = .ok there) : there = here := by
  unfold step at stepped
  split at stepped
  · cases stepped
  · cases stepped
  · cases stepped
    rfl

/-- Single dots on the way may be left out. -/
theorem follow_without_dots {disk : Disk} {here there : Place} {names : List String}
    (followed : disk.follow here names = .ok there) :
    disk.follow here (names.filter (· ≠ ".")) = .ok there := by
  induction names generalizing here with
  | nil => exact followed
  | cons name rest ih =>
      unfold follow at followed ih ⊢
      rw [List.foldlM_cons] at followed
      cases stepped : disk.step here name with
      | error cause =>
          rw [stepped] at followed
          cases followed
      | ok next =>
          rw [stepped] at followed
          have others := ih followed
          by_cases stays : name = "."
          · subst stays
            rw [List.filter_cons_of_neg (by simp), ← eq_of_step_dot stepped]
            exact others
          · rw [List.filter_cons_of_pos (by simp [stays]), List.foldlM_cons, stepped]
            exact others

theorem exists_joinPath (directory name : String) :
    ∃ more, joinPath directory name = directory ++ more := by
  unfold joinPath
  split
  · exact ⟨name, rfl⟩
  · exact ⟨"/" ++ name, String.append_assoc⟩

/-- A directory in which a file can be read is there, and making it changes nothing. -/
theorem tryDirectories_of_readFile {disk : Disk} {directory name : String} {content : ByteArray}
    (plain : PlainName name) (read : disk.readFile (joinPath directory name) = .ok content)
    (refused : List String → Option Cause) :
    disk.tryDirectories refused directory = (.ok (), disk) := by
  obtain ⟨place, located⟩ := locate_of_readFile read
  obtain ⟨noNul, short, _, here, followed, isDirectory, _⟩ :=
    (locate_joinPath_eq_ok_iff disk directory plain).mp located
  obtain ⟨more, joined⟩ := exists_joinPath directory name
  rw [joined, String.toList_append] at noNul
  rw [joined, String.utf8ByteSize_append] at short
  have leads : disk.leadsToDirectory (disk.startOf directory)
      ((pathNames directory).filter (· ≠ ".")) = true :=
    leadsToDirectory_iff.mpr ⟨here, follow_without_dots followed, isDirectory⟩
  unfold tryDirectories
  rw [if_neg (by simpa using fun member => noNul (List.mem_append_left _ member)),
    if_neg (by omega)]
  exact makeDirectoriesUp_of_leads (.inr (by rwa [List.reverse_reverse]))

end WebviewHost.Files.Disk
