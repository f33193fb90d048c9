import WebviewHost.Text.Blank

/-!
# Trimming

What is taken off both ends of a text are blanks, and of a word between blanks nothing but these.
-/

set_option autoImplicit false

namespace WebviewHost.Text

theorem exists_trimBlanks (text : List Char) :
    ∃ left right, text = left ++ trimBlanks text ++ right ∧
      ∀ c ∈ left ++ right, isBlank c = true := by
  have split := fun part : List Char =>
    (List.takeWhile_append_dropWhile : part.takeWhile isBlank ++ part.dropWhile isBlank = part)
  refine ⟨text.takeWhile isBlank,
    ((text.dropWhile isBlank).reverse.takeWhile isBlank).reverse, ?_, ?_⟩
  · unfold trimBlanks
    rw [List.append_assoc, ← List.reverse_append, split, List.reverse_reverse, split]
  · intro c member
    rcases List.mem_append.mp member with before | after
    · exact List.all_eq_true.mp List.all_takeWhile c before
    · exact List.all_eq_true.mp List.all_takeWhile c (List.mem_reverse.mp after)

/-- A word with blanks around it. The word itself neither begins nor ends with one. -/
structure Trimmed (text word : List Char) : Prop where
  around : ∃ left right, text = left ++ word ++ right ∧ ∀ c ∈ left ++ right, isBlank c = true
  first : ∃ c, word.head? = some c ∧ isBlank c = false
  last : ∃ c, word.getLast? = some c ∧ isBlank c = false

private theorem dropWhile_isBlank_of_head {text : List Char}
    (begins : ∃ c, text.head? = some c ∧ isBlank c = false) : text.dropWhile isBlank = text := by
  obtain ⟨c, head, solid⟩ := begins
  obtain ⟨rest, rfl⟩ := List.head?_eq_some_iff.mp head
  exact List.dropWhile_cons_of_neg (by simp [solid])

private theorem head?_dropWhile_isBlank {text : List Char} (stops : text.dropWhile isBlank ≠ []) :
    ∃ c, (text.dropWhile isBlank).head? = some c ∧ isBlank c = false := by
  obtain ⟨c, rest, left⟩ := List.exists_cons_of_ne_nil stops
  have solid := List.head?_dropWhile_not isBlank text
  rw [left] at solid ⊢
  exact ⟨c, rfl, solid⟩

theorem trimBlanks_of_trimmed {text word : List Char} (trimmed : Trimmed text word) :
    trimBlanks text = word := by
  obtain ⟨⟨left, right, rfl, blank⟩, first, last⟩ := trimmed
  obtain ⟨before, after⟩ := List.forall_mem_append.mp blank
  have begins : ∃ c, (word ++ right).head? = some c ∧ isBlank c = false := by
    obtain ⟨c, head, solid⟩ := first
    exact ⟨c, by rw [List.head?_append, head, Option.some_or], solid⟩
  have backwards : ∀ c ∈ right.reverse, isBlank c = true :=
    fun c member => after c (List.mem_reverse.mp member)
  have ends : ∃ c, word.reverse.head? = some c ∧ isBlank c = false := by
    rwa [List.head?_reverse]
  unfold trimBlanks
  rw [List.append_assoc, List.dropWhile_append_of_pos before, dropWhile_isBlank_of_head begins,
    List.reverse_append, List.dropWhile_append_of_pos backwards, dropWhile_isBlank_of_head ends,
    List.reverse_reverse]

theorem trimmed_trimBlanks {text : List Char} (nonempty : trimBlanks text ≠ []) :
    Trimmed text (trimBlanks text) := by
  have ends : (text.dropWhile isBlank).reverse.dropWhile isBlank ≠ [] := by
    rwa [← List.reverse_ne_nil_iff]
  obtain ⟨left, right, whole, blank⟩ := exists_trimBlanks text
  refine ⟨⟨left, right, whole, blank⟩, ?_, ?_⟩
  · have split : text.dropWhile isBlank = trimBlanks text ++
        ((text.dropWhile isBlank).reverse.takeWhile isBlank).reverse := by
      unfold trimBlanks
      rw [← List.reverse_append, List.takeWhile_append_dropWhile, List.reverse_reverse]
    obtain ⟨c, rest, word⟩ := List.exists_cons_of_ne_nil nonempty
    have head : (text.dropWhile isBlank).head? = some c := by
      rw [split, word]
      rfl
    have stops : text.dropWhile isBlank ≠ [] := by
      intro nothing
      rw [nothing] at head
      cases head
    obtain ⟨first, same, solid⟩ := head?_dropWhile_isBlank stops
    cases head.symm.trans same
    exact ⟨c, by rw [word]; rfl, solid⟩
  · unfold trimBlanks
    rw [List.getLast?_reverse]
    exact head?_dropWhile_isBlank ends

theorem trimBlanks_eq_nil_iff {text : List Char} :
    trimBlanks text = [] ↔ ∀ c ∈ text, isBlank c = true := by
  constructor
  · intro nothing
    obtain ⟨left, right, whole, blank⟩ := exists_trimBlanks text
    rw [nothing, List.append_nil] at whole
    rwa [whole]
  · intro blank
    have dropped : (text ++ []).dropWhile isBlank = [] := List.dropWhile_append_of_pos blank
    unfold trimBlanks
    rw [← List.append_nil text, dropped]
    rfl

theorem trimBlanks_append {left word right : List Char} (nonempty : word ≠ [])
    (blank : ∀ c ∈ left ++ right, isBlank c = true) (solid : ∀ c ∈ word, isBlank c = false) :
    trimBlanks (left ++ word ++ right) = word := by
  refine trimBlanks_of_trimmed ⟨⟨left, right, rfl, blank⟩, ?_, ?_⟩
  · exact ⟨word.head nonempty, List.head?_eq_some_head nonempty, solid _ (List.head_mem nonempty)⟩
  · exact ⟨word.getLast nonempty, List.getLast?_eq_some_getLast nonempty, solid _ (List.getLast_mem nonempty)⟩

end WebviewHost.Text
