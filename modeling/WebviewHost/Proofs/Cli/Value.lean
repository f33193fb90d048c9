import WebviewHost.Cli.Value
import WebviewHost.Proofs.Json.RoundTrip

/-!
# What texts on the command line mean

A text means the value that it denotes, else it means itself. A printed value denotes that value,
unless it opens more arrays and objects at once than the reader allows: then it denotes nothing.
-/

set_option autoImplicit false

namespace WebviewHost.Cli

/-- What a text means where a plain string will do. -/
inductive Means (text : String) : Json → Prop where
  | value {value : Json} : Json.Denotes text value → Means text value
  | plain : (∀ value, ¬Json.Denotes text value) → Means text (.string text)

variable {text : String} {value : Json}

theorem parseValue_of_denotes (denotes : Json.Denotes text value) : parseValue text = value := by
  unfold parseValue
  rw [Json.read?_eq_some_iff.mpr denotes]
  rfl

theorem parseValue_of_not_denotes (meaningless : ∀ value, ¬Json.Denotes text value) :
    parseValue text = .string text := by
  have unread : Json.read? text = none :=
    Option.eq_none_iff_forall_ne_some.mpr fun value read =>
      meaningless value (Json.read?_eq_some_iff.mp read)
  unfold parseValue
  rw [unread]
  rfl

theorem means_parseValue (text : String) : Means text (parseValue text) := by
  by_cases denotes : ∃ value, Json.Denotes text value
  · obtain ⟨value, denotes⟩ := denotes
    rw [parseValue_of_denotes denotes]
    exact .value denotes
  · have meaningless := not_exists.mp denotes
    rw [parseValue_of_not_denotes meaningless]
    exact .plain meaningless

theorem parseValue_eq_iff : parseValue text = value ↔ Means text value := by
  constructor
  · rintro rfl
    exact means_parseValue text
  · rintro (denotes | meaningless)
    · exact parseValue_of_denotes denotes
    · exact parseValue_of_not_denotes meaningless

/-- A text never denotes itself, so it is taken as it is only if it denotes nothing. -/
theorem parseValue_eq_text_iff :
    parseValue text = .string text ↔ ∀ value, ¬Json.Denotes text value := by
  constructor
  · intro same value denotes
    rw [parseValue_of_denotes denotes] at same
    cases same
    exact Json.not_denotes_itself text denotes
  · exact parseValue_of_not_denotes

/-! ## Printed values -/

theorem denotes_renderValue (ordered : value.Ordered) (numbers : value.AllNumbers Number.ReadsBack)
    (shallow : value.depth ≤ Json.depthLimit) : Json.Denotes (renderValue value) value := by
  refine Json.read?_eq_some_iff.mp ?_
  rw [renderValue, Json.read?_pretty ordered numbers, if_pos shallow]

theorem not_denotes_renderValue (ordered : value.Ordered)
    (numbers : value.AllNumbers Number.ReadsBack) (deep : Json.depthLimit < value.depth)
    (other : Json) : ¬Json.Denotes (renderValue value) other := by
  intro denotes
  have read := Json.read?_eq_some_iff.mpr denotes
  rw [renderValue, Json.read?_pretty ordered numbers, if_neg (Nat.not_le_of_lt deep)] at read
  cases read

/-- A line break at the end, as there is one after a printed value, changes nothing. -/
theorem denotes_line (denotes : Json.Denotes text value) : Json.Denotes (text ++ "\n") value :=
  denotes.append (List.forall_mem_singleton.mpr (by decide))

/-- A printed value means that value exactly if it is not too deep. -/
theorem means_renderValue_iff (ordered : value.Ordered)
    (numbers : value.AllNumbers Number.ReadsBack) :
    Means (renderValue value) value ↔ value.depth ≤ Json.depthLimit := by
  constructor
  · intro means
    refine Nat.le_of_not_lt fun deep => ?_
    have meaningless := not_denotes_renderValue ordered numbers deep
    have same := (parseValue_of_not_denotes meaningless).symm.trans (parseValue_eq_iff.mpr means)
    have flat : 0 = value.depth := congrArg Json.depth same
    omega
  · exact fun shallow => .value (denotes_renderValue ordered numbers shallow)

/-- A string that looks like a number is printed with its quotes, and stays a string. -/
example : renderValue (parseValue "\"42\"\n") = "\"42\"" ∧ renderValue (parseValue "42\n") = "42" ∧
    renderValue (parseValue "Lighting") = "\"Lighting\"" := by
  decide

end WebviewHost.Cli
