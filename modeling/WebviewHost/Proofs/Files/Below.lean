import WebviewHost.Proofs.Files.Disk

/-!
# What lies below a directory

The part of a file tree that can be seen through paths below one directory: such a path finds what
is at its names, if there are directories on the way. Nothing else of the tree plays a part.
-/

set_option autoImplicit false

namespace WebviewHost.Files

/-! ## Paths -/

section Paths

variable {names : List String}

theorem pathNames_foldl_joinPath (root : String) (plain : ∀ name ∈ names, PlainName name) :
    pathNames (names.foldl joinPath root) = pathNames root ++ names := by
  induction names generalizing root with
  | nil => exact (List.append_nil _).symm
  | cons name rest ih =>
      obtain ⟨first, others⟩ := List.forall_mem_cons.mp plain
      rw [List.foldl_cons, ih _ others, first.pathNames_joinPath, List.append_assoc]
      rfl

theorem startOf_foldl_joinPath (disk : Disk) (root : String)
    (plain : ∀ name ∈ names, PlainName name) :
    disk.startOf (names.foldl joinPath root) = disk.startOf root := by
  induction names generalizing root with
  | nil => rfl
  | cons name rest ih =>
      obtain ⟨first, others⟩ := List.forall_mem_cons.mp plain
      rw [List.foldl_cons, ih _ others, first.startOf_joinPath]

end Paths

def Entry.isDirectory : Entry → Bool
  | .directory _ => true
  | .file _ _ => false

def Entry.content? : Entry → Option ByteArray
  | .file _ content => some content
  | .directory _ => none

namespace Disk

variable {disk left right : Disk} {here there place : Place} {root path name : String}
  {names : List String} {entry : Entry}

/-! ## Going down -/

theorem step_eq_ok_iff (plain : PlainName name) :
    disk.step here name = .ok there ↔
      disk.holdsDirectory here = true ∧ name.utf8ByteSize ≤ longestName ∧
        there = here ++ [name] := by
  unfold step holdsDirectory
  rw [if_neg plain.notDot, if_neg plain.notDots]
  cases disk.entry? here with
  | none => simp
  | some found =>
      cases found with
      | file mode content => simp
      | directory mode =>
          by_cases long : longestName < name.utf8ByteSize
          · simp [long, Nat.not_le.mpr long]
          · simp [long, Nat.not_lt.mp long, eq_comm]

/-- Plain names lead straight down, through directories. -/
theorem follow_eq_ok_iff (plain : ∀ name ∈ names, PlainName name) :
    disk.follow here names = .ok there ↔
      there = here ++ names ∧ ∀ front name rest, names = front ++ name :: rest →
        disk.holdsDirectory (here ++ front) = true ∧ name.utf8ByteSize ≤ longestName := by
  induction names generalizing here with
  | nil =>
      have reached : disk.follow here [] = .ok there ↔ here = there := by
        simp [follow, pure, Except.pure]
      rw [reached, List.append_nil, eq_comm]
      exact (and_iff_left fun front name rest whole => by simp at whole).symm
  | cons first others ih =>
      obtain ⟨firstPlain, othersPlain⟩ := List.forall_mem_cons.mp plain
      have moved : disk.follow here (first :: others) = .ok there ↔
          ∃ next, disk.step here first = .ok next ∧ disk.follow next others = .ok there := by
        unfold follow
        rw [List.foldlM_cons]
        cases disk.step here first <;> simp [bind, Except.bind]
      rw [moved]
      constructor
      · rintro ⟨next, stepped, followed⟩
        obtain ⟨directory, short, rfl⟩ := (step_eq_ok_iff firstPlain).mp stepped
        obtain ⟨rfl, passed⟩ := (ih othersPlain).mp followed
        refine ⟨by simp, fun front name rest whole => ?_⟩
        rcases List.cons_eq_append_iff.mp whole with ⟨rfl, same⟩ | ⟨front, rfl, same⟩
        · cases same
          simpa using ⟨directory, short⟩
        · simpa using passed front name rest same
      · rintro ⟨rfl, passed⟩
        obtain ⟨directory, short⟩ := passed [] first others rfl
        rw [List.append_nil] at directory
        refine ⟨here ++ [first], (step_eq_ok_iff firstPlain).mpr ⟨directory, short, rfl⟩, ?_⟩
        refine (ih othersPlain).mpr ⟨by simp, fun front name rest whole => ?_⟩
        simpa using passed (first :: front) name rest (by rw [whole, List.cons_append])

/-! ## Looking up -/

def find? (disk : Disk) (path : String) : Option Entry := (disk.lookUp path).toOption

/-- A path that is not refused for its text alone. -/
structure Usable (path : String) : Prop where
  notEmpty : path ≠ ""
  noNul : '\x00' ∉ path.toList
  short : path.utf8ByteSize < pathLimit

theorem Usable.of_locate (reached : disk.locate path = .ok place) : Usable path := by
  unfold locate at reached
  split at reached
  next => cases reached
  next named =>
    split at reached
    next => cases reached
    next noNul =>
      split at reached
      next => cases reached
      next short => exact ⟨by simpa using named, by simpa using noNul, Nat.not_le.mp short⟩

theorem find?_eq_some_iff :
    disk.find? path = some entry ↔
      Usable path ∧ ∃ place, disk.follow (disk.startOf path) (pathNames path) = .ok place ∧
        disk.entry? place = some entry ∧
        (endsInSlash path = true → ∃ mode, entry = .directory mode) := by
  unfold find? lookUp
  by_cases usable : Usable path
  · unfold locate
    rw [if_neg (by simpa using usable.notEmpty), if_neg (by simpa using usable.noNul),
      if_neg (Nat.not_le.mpr usable.short)]
    simp only [usable, true_and]
    cases disk.follow (disk.startOf path) (pathNames path) with
    | error cause => simp [bind, Except.bind, Except.toOption]
    | ok place =>
        simp only [bind, Except.bind, Except.ok.injEq, exists_eq_left']
        cases held : disk.entry? place with
        | none => simp [held, Except.toOption]
        | some found =>
            cases found with
            | directory mode =>
                simp only [held, Except.toOption, Option.some.injEq]
                exact ⟨fun same => ⟨same, fun _ => ⟨mode, same.symm⟩⟩, And.left⟩
            | file mode content =>
                cases ends : endsInSlash path with
                | false => simp [held, Except.toOption]
                | true =>
                    refine iff_of_false nofun ?_
                    rintro ⟨same, directory⟩
                    obtain ⟨other, rfl⟩ := directory rfl
                    cases same
  · refine iff_of_false ?_ fun found => usable found.1
    cases reached : disk.locate path with
    | error cause => nofun
    | ok place => exact absurd (.of_locate reached) usable

theorem isDirectory_eq (disk : Disk) (path : String) :
    disk.isDirectory path = (disk.find? path).any Entry.isDirectory := by
  unfold isDirectory find?
  cases disk.lookUp path with
  | error cause => rfl
  | ok found => cases found <;> rfl

theorem toOption_readFile (disk : Disk) (path : String) :
    (disk.readFile path).toOption = (disk.find? path).bind Entry.content? := by
  unfold readFile find?
  cases disk.lookUp path with
  | error cause => rfl
  | ok found => cases found <;> rfl

/-- What is at some names below a directory, wherever that is. -/
def below? (disk : Disk) (root : String) (names : List String) : Option Entry :=
  match disk.follow (disk.startOf root) (pathNames root) with
  | .ok here => disk.entry? (here ++ names)
  | .error _ => none

/-- A path below a directory finds what is there, if it finds directories on the way. -/
theorem find?_below_eq_some_iff (plain : ∀ name ∈ names, PlainName name) :
    disk.find? (names.foldl joinPath root) = some entry ↔
      Usable (names.foldl joinPath root) ∧
        (∀ front name rest, names = front ++ name :: rest →
          (∃ mode, disk.below? root front = some (.directory mode)) ∧
            name.utf8ByteSize ≤ longestName) ∧
        disk.below? root names = some entry ∧
        (endsInSlash (names.foldl joinPath root) = true → ∃ mode, entry = .directory mode) := by
  have followed : disk.follow (disk.startOf root) (pathNames root ++ names) =
      (do disk.follow (← disk.follow (disk.startOf root) (pathNames root)) names) := by
    unfold follow
    rw [List.foldlM_append]
  rw [find?_eq_some_iff, pathNames_foldl_joinPath root plain, startOf_foldl_joinPath disk root plain,
    followed]
  unfold below?
  cases disk.follow (disk.startOf root) (pathNames root) with
  | error cause => simp [bind, Except.bind]
  | ok here =>
      simp only [bind, Except.bind, follow_eq_ok_iff plain, holdsDirectory_eq_true_iff]
      refine and_congr_right fun _ => ?_
      constructor
      · rintro ⟨place, ⟨rfl, passed⟩, found⟩
        exact ⟨passed, found⟩
      · rintro ⟨passed, found⟩
        exact ⟨_, ⟨rfl, passed⟩, found⟩

/-- Two file trees that hold the same below a directory, wherever it is in each of them. -/
def AgreeBelow (root : String) (left right : Disk) : Prop :=
  ∀ names, (∀ name ∈ names, PlainName name) → left.below? root names = right.below? root names

theorem AgreeBelow.find?_eq (agree : AgreeBelow root left right)
    (plain : ∀ name ∈ names, PlainName name) :
    left.find? (names.foldl joinPath root) = right.find? (names.foldl joinPath root) := by
  have front : ∀ front name rest, names = front ++ name :: rest →
      left.below? root front = right.below? root front := by
    rintro front name rest rfl
    exact agree front fun other known => plain other (List.mem_append_left _ known)
  refine Option.ext fun entry => ?_
  rw [find?_below_eq_some_iff plain, find?_below_eq_some_iff plain, agree names plain]
  refine and_congr_right fun _ => and_congr_left fun _ => ?_
  refine forall_congr' fun before => forall_congr' fun name => forall_congr' fun rest => ?_
  refine forall_congr' fun whole => ?_
  rw [front before name rest whole]

end Disk

end WebviewHost.Files
