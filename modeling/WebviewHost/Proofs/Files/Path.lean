import WebviewHost.Files.Replacement

/-!
# Paths of files in a directory

How a path splits into names, and where the path of a plainly named file leads: one name beyond
the place its directory leads to.
-/

set_option autoImplicit false

namespace WebviewHost.Files

/-! ## Splitting -/

theorem splitAt_ne_nil (separator : Char) (text : List Char) : splitAt separator text ≠ [] := by
  cases text with
  | nil => simp [splitAt]
  | cons c rest =>
      simp only [splitAt]
      split
      · simp
      · split <;> simp

theorem splitAt_cons_self (separator : Char) (rest : List Char) :
    splitAt separator (separator :: rest) = [] :: splitAt separator rest := by
  cases parts : splitAt separator rest with
  | nil => exact False.elim (splitAt_ne_nil separator rest parts)
  | cons first others => simp [splitAt, parts]

theorem splitAt_cons_of_ne {separator c : Char} {rest first : List Char} {others : List (List Char)}
    (different : c ≠ separator) (parts : splitAt separator rest = first :: others) :
    splitAt separator (c :: rest) = (c :: first) :: others := by
  simp [splitAt, parts, different]

theorem splitAt_append_cons (separator : Char) (text more : List Char) :
    splitAt separator (text ++ separator :: more) =
      splitAt separator text ++ splitAt separator more := by
  induction text with
  | nil => simp [splitAt_cons_self, splitAt]
  | cons c rest ih =>
      cases parts : splitAt separator rest with
      | nil => exact False.elim (splitAt_ne_nil separator rest parts)
      | cons first others =>
          rw [parts] at ih
          by_cases same : c = separator
          · subst same
            rw [List.cons_append, splitAt_cons_self, splitAt_cons_self, ih, parts]
            rfl
          · rw [List.cons_append, splitAt_cons_of_ne same parts, splitAt_cons_of_ne same ih]
            rfl

theorem splitAt_of_not_mem {separator : Char} {text : List Char} (absent : separator ∉ text) :
    splitAt separator text = [text] := by
  induction text with
  | nil => rfl
  | cons c rest ih =>
      rw [List.mem_cons, not_or] at absent
      exact splitAt_cons_of_ne (Ne.symm absent.1) (ih absent.2)

theorem not_mem_of_mem_splitAt {separator : Char} {text part : List Char}
    (member : part ∈ splitAt separator text) : separator ∉ part := by
  induction text generalizing part with
  | nil =>
      cases List.mem_singleton.mp member
      exact List.not_mem_nil
  | cons c rest ih =>
      cases parts : splitAt separator rest with
      | nil => exact False.elim (splitAt_ne_nil separator rest parts)
      | cons first others =>
          rw [parts] at ih
          by_cases same : c = separator
          · subst same
            rw [splitAt_cons_self, parts] at member
            rcases List.mem_cons.mp member with rfl | later
            · exact List.not_mem_nil
            · exact ih later
          · rw [splitAt_cons_of_ne same parts] at member
            rcases List.mem_cons.mp member with rfl | later
            · exact List.not_mem_cons_of_ne_of_not_mem (Ne.symm same) (ih List.mem_cons_self)
            · exact ih (List.mem_cons_of_mem _ later)

theorem intercalate_splitAt (separator : Char) (text : List Char) :
    [separator].intercalate (splitAt separator text) = text := by
  induction text with
  | nil => rfl
  | cons c rest ih =>
      cases parts : splitAt separator rest with
      | nil => exact False.elim (splitAt_ne_nil separator rest parts)
      | cons first others =>
          rw [parts] at ih
          by_cases same : c = separator
          · subst same
            rw [splitAt_cons_self, parts, List.intercalate_cons_cons, ih]
            rfl
          · rw [splitAt_cons_of_ne same parts]
            cases others with
            | nil =>
                rw [List.intercalate_singleton] at ih ⊢
                rw [ih]
            | cons next others =>
                rw [List.intercalate_cons_cons] at ih ⊢
                rw [← ih]
                rfl

theorem splitAt_intercalate {separator : Char} {parts : List (List Char)} (nonempty : parts ≠ [])
    (undivided : ∀ part ∈ parts, separator ∉ part) :
    splitAt separator ([separator].intercalate parts) = parts := by
  induction parts with
  | nil => exact absurd rfl nonempty
  | cons part rest ih =>
      obtain ⟨first, others⟩ := List.forall_mem_cons.mp undivided
      cases rest with
      | nil => rw [List.intercalate_singleton, splitAt_of_not_mem first]
      | cons next rest =>
          have joined : [separator].intercalate (part :: next :: rest) =
              part ++ separator :: [separator].intercalate (next :: rest) := by
            rw [List.intercalate_cons_cons, List.append_assoc]
            rfl
          rw [joined, splitAt_append_cons, splitAt_of_not_mem first,
            ih (List.cons_ne_nil next rest) others]
          rfl

theorem intercalate_append_cons (separator : Char) (before : List (List Char)) (part : List Char)
    (after : List (List Char)) :
    [separator].intercalate (before ++ part :: after) =
      before.flatMap (· ++ [separator]) ++ part ++ after.flatMap (separator :: ·) := by
  induction before with
  | nil =>
      induction after generalizing part with
      | nil => simp
      | cons next after ih =>
          rw [List.nil_append, List.intercalate_cons_cons]
          have rest := ih next
          rw [List.nil_append] at rest
          simp [rest]
  | cons first before ih =>
      cases before with
      | nil =>
          rw [List.cons_append, List.nil_append, List.intercalate_cons_cons]
          rw [List.nil_append] at ih
          simp [ih]
      | cons next before =>
          rw [List.cons_append, List.cons_append, List.intercalate_cons_cons]
          rw [List.cons_append] at ih
          simp [ih]

/-- A part of a text stands between two separators, or where the text begins or ends. -/
theorem mem_splitAt_iff {separator : Char} {text part : List Char} :
    part ∈ splitAt separator text ↔ separator ∉ part ∧
      ∃ before after, text = before ++ part ++ after ∧
        (before = [] ∨ before.getLast? = some separator) ∧
        (after = [] ∨ after.head? = some separator) := by
  constructor
  · intro member
    obtain ⟨left, right, parts⟩ := List.append_of_mem member
    have whole := intercalate_splitAt separator text
    rw [parts, intercalate_append_cons] at whole
    refine ⟨not_mem_of_mem_splitAt member, _, _, whole.symm, ?_, ?_⟩
    · rcases List.eq_nil_or_concat left with rfl | ⟨front, last, rfl⟩
      · exact .inl rfl
      · exact .inr (by simp)
    · cases right with
      | nil => exact .inl rfl
      | cons next right => exact .inr rfl
  · rintro ⟨undivided, before, after, rfl, begins, ends⟩
    have here : part ∈ splitAt separator (part ++ after) := by
      cases after with
      | nil =>
          rw [List.append_nil, splitAt_of_not_mem undivided]
          exact List.mem_cons_self
      | cons c after =>
          have same : c = separator := by simpa using ends
          subst same
          rw [splitAt_append_cons, splitAt_of_not_mem undivided]
          exact List.mem_cons_self
    rw [List.append_assoc]
    rcases begins with rfl | last
    · exact here
    · obtain ⟨front, rfl⟩ := List.getLast?_eq_some_iff.mp last
      rw [List.append_assoc, List.singleton_append, splitAt_append_cons]
      exact List.mem_append_right _ here

/-! ## Absolute paths -/

theorem isAbsolute_iff {text : String} : isAbsolute text = true ↔ ∃ rest, text = "/" ++ rest := by
  unfold isAbsolute
  rw [decide_eq_true_eq]
  constructor
  · intro begins
    obtain ⟨rest, whole⟩ := List.head?_eq_some_iff.mp begins
    refine ⟨String.ofList rest, ?_⟩
    rw [← String.ofList_append, ← String.ofList_toList (s := text), whole]
    rfl
  · rintro ⟨rest, rfl⟩
    rw [String.toList_append]
    rfl

theorem ne_empty_of_isAbsolute {text : String} (absolute : isAbsolute text = true) : text ≠ "" := by
  intro empty
  subst empty
  cases absolute

theorem isAbsolute_append {text : String} (absolute : isAbsolute text = true) (more : String) :
    isAbsolute (text ++ more) = true := by
  obtain ⟨rest, rfl⟩ := isAbsolute_iff.mp absolute
  exact isAbsolute_iff.mpr ⟨rest ++ more, String.append_assoc⟩

theorem isAbsolute_joinPath {directory : String} (absolute : isAbsolute directory = true)
    (name : String) : isAbsolute (joinPath directory name) = true := by
  unfold joinPath
  split
  · exact isAbsolute_append absolute name
  · exact isAbsolute_append (isAbsolute_append absolute "/") name

/-! ## Plain names -/

/-- A name that stands for itself in a path: it does not step aside, is not empty and does not
divide. -/
structure PlainName (name : String) : Prop where
  notEmpty : name.toList ≠ []
  undivided : '/' ∉ name.toList
  notDot : name ≠ "."
  notDots : name ≠ ".."

theorem toList_joinPath (directory name : String) :
    (directory = "" ∧ joinPath directory name = name) ∨
      ∃ front, (directory.toList = front ++ ['/'] ∨ directory.toList = front) ∧ directory ≠ "" ∧
        (joinPath directory name).toList = front ++ '/' :: name.toList := by
  by_cases empty : directory = ""
  · subst empty
    exact .inl ⟨rfl, by simp [joinPath, endsInSlash]⟩
  · by_cases ends : directory.toList.getLast? = some '/'
    · obtain ⟨front, whole⟩ := List.getLast?_eq_some_iff.mp ends
      exact .inr ⟨front, .inl whole, empty, by simp [joinPath, endsInSlash, whole]⟩
    · exact .inr ⟨directory.toList, .inr rfl, empty, by simp [joinPath, endsInSlash, ends, empty]⟩

theorem PlainName.not_endsInSlash {name : String} (plain : PlainName name) (directory : String) :
    endsInSlash (joinPath directory name) = false := by
  have last : name.toList.getLast? ≠ some '/' := fun ends =>
    plain.undivided (List.mem_of_getLast? ends)
  obtain ⟨c, before, shape⟩ := List.exists_cons_of_ne_nil plain.notEmpty
  rcases toList_joinPath directory name with ⟨_, alone⟩ | ⟨front, _, _, joined⟩
  · simpa [endsInSlash, alone] using last
  · simpa [endsInSlash, joined, shape] using last

/-- The names in the path of a file are those of its directory and its own. -/
theorem PlainName.pathNames_joinPath {name : String} (plain : PlainName name)
    (directory : String) :
    pathNames (joinPath directory name) = pathNames directory ++ [name] := by
  have own : splitAt '/' name.toList = [name.toList] := splitAt_of_not_mem plain.undivided
  have kept : name ≠ "" := by simpa using plain.notEmpty
  rcases toList_joinPath directory name with ⟨rfl, alone⟩ | ⟨front, known, _, joined⟩
  · simp [pathNames, alone, own, kept, splitAt]
  · unfold pathNames
    rw [joined, splitAt_append_cons, own]
    rcases known with whole | whole
    · rw [whole, splitAt_append_cons]
      simp [kept, splitAt]
    · simp [whole, kept]

theorem PlainName.startOf_joinPath {name : String} (plain : PlainName name) (disk : Disk)
    (directory : String) : disk.startOf (joinPath directory name) = disk.startOf directory := by
  have head : name.toList.head? ≠ some '/' := fun begins =>
    plain.undivided (List.mem_of_head? begins)
  have same : isAbsolute (joinPath directory name) = isAbsolute directory := by
    unfold isAbsolute
    rcases toList_joinPath directory name with ⟨rfl, alone⟩ | ⟨front, known, _, joined⟩
    · simpa [alone] using head
    · rw [joined]
      rcases known with whole | whole <;> cases front <;> simp_all
  unfold Disk.startOf
  rw [same]

end WebviewHost.Files
