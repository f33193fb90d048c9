import WebviewHost.Proofs.Json.Accepted
import WebviewHost.Proofs.Json.Strings

/-!
# Pretty text that reads back

The pretty text of a value is a way to write it, so the reader gets the value back exactly if it
opens no more arrays and objects at once than the reader allows. Values are ordered and their
numbers read back; the reader itself gives no others, doubles apart.
-/

set_option autoImplicit false

namespace WebviewHost.Json

def isContainer : Json → Bool
  | .array _ | .object _ => true
  | _ => false

/-- Induction over what a value is made of. -/
theorem induction {motive : Json → Prop}
    (scalar : ∀ value, value.isContainer = false → motive value)
    (array : ∀ items, (∀ item ∈ items, motive item) → motive (.array items))
    (object : ∀ members : Members, (∀ entry ∈ members, motive entry.2) → motive (.object members)) :
    ∀ value, motive value
  | .array items => array items fun item member => by
      have smaller := List.sizeOf_lt_of_mem member
      exact induction scalar array object item
  | .object members => object members fun entry member => by
      obtain ⟨key, value⟩ := entry
      have smaller := List.sizeOf_lt_of_mem member
      have := Prod.mk.sizeOf_spec key value
      exact induction scalar array object value
  | .null => scalar _ rfl
  | .bool _ => scalar _ rfl
  | .number _ => scalar _ rfl
  | .string _ => scalar _ rfl
termination_by value => sizeOf value
decreasing_by
  all_goals simp_wf; omega

/-! ## Numbers that read back -/

theorem AllNumbers.and_imp {first second both : Number → Prop}
    (each : ∀ number, first number → second number → both number) (value : Json)
    (holdsFirst : value.AllNumbers first) (holdsSecond : value.AllNumbers second) :
    value.AllNumbers both := by
  induction value using Json.induction with
  | scalar value scalar =>
      cases value with
      | number number => exact each number holdsFirst holdsSecond
      | array items => cases scalar
      | object members => cases scalar
      | _ => trivial
  | array items ih =>
      have firstEach := allNumbersItems_iff.mp holdsFirst
      have secondEach := allNumbersItems_iff.mp holdsSecond
      exact allNumbersItems_iff.mpr fun item member =>
        ih item member (firstEach item member) (secondEach item member)
  | object members ih =>
      have firstEach := allNumbersMembers_iff.mp holdsFirst
      have secondEach := allNumbersMembers_iff.mp holdsSecond
      exact allNumbersMembers_iff.mpr fun entry member =>
        ih entry member (firstEach entry member) (secondEach entry member)

theorem Accepted.readsBack {allowance : Nat} {value : Json} (accepted : Accepted allowance value)
    (exact_ : value.AllNumbers Number.Exact) : value.AllNumbers Number.ReadsBack := by
  refine AllNumbers.and_imp (fun number fits exact_ => ?_) value accepted.numbers exact_
  cases number with
  | integer value => exact Number.readsBack_integer fits.1 fits.2
  | double value => exact exact_

/-! ## Pretty texts are written so -/

theorem scalarText_of_scalar {value : Json} (scalar : value.isContainer = false)
    (numbers : value.AllNumbers Number.ReadsBack) : ScalarText value.scalarText value := by
  cases value with
  | array items => cases scalar
  | object members => cases scalar
  | null => exact .null
  | bool value =>
      cases value with
      | false => exact .bool false
      | true => exact .bool true
  | string value => exact .string (stringText_escaped value.toList)
  | number value =>
      obtain ⟨literal, taken, denoted⟩ := numbers
      exact .number (Number.takeLiteral?_eq_some_iff.mp taken) denoted

theorem prettyText_of_scalar {value : Json} (scalar : value.isContainer = false) (level : Nat) :
    value.prettyText level = value.scalarText := by
  cases value with
  | array items => cases scalar
  | object members => cases scalar
  | _ => rfl

theorem blank_newline (level : Nat) : Blank (newline level) := by
  intro c member
  rcases List.mem_cons.mp member with rfl | space
  · decide
  · rw [List.eq_of_mem_replicate space]
    decide

/-- The items of an array as its pretty text has them, each on a line of its own. -/
theorem exists_prettyItems {items : List Json} (nonempty : items ≠ []) (level : Nat) :
    ∃ written : List Item, written ≠ [] ∧ written.map Item.value = items ∧
      prettyItems level items = [','].intercalate (written.map Item.text) ++ [']'] ∧
      (∀ item ∈ written, item.Padded) ∧
      ∀ item ∈ written, item.raw = item.value.prettyText (level + 1) := by
  induction items with
  | nil => exact absurd rfl nonempty
  | cons item more ih =>
      cases more with
      | nil =>
          refine ⟨[⟨newline (level + 1), item.prettyText (level + 1), newline level, item⟩],
            List.cons_ne_nil _ _, rfl, ?_, ?_, ?_⟩
          · rw [List.map_singleton, List.intercalate_singleton]
            rfl
          · exact List.forall_mem_singleton.mpr ⟨blank_newline _, blank_newline _⟩
          · exact List.forall_mem_singleton.mpr rfl
      | cons next more =>
          obtain ⟨written, filled, values, text, padded, raws⟩ := ih (List.cons_ne_nil next more)
          refine ⟨⟨newline (level + 1), item.prettyText (level + 1), [], item⟩ :: written,
            List.cons_ne_nil _ _, congrArg (item :: ·) values, ?_, ?_, ?_⟩
          · rw [intercalate_map_cons Item.text _ filled, List.append_assoc, List.cons_append, ← text]
            simp [prettyItems, Item.text]
          · exact List.forall_mem_cons.mpr ⟨⟨blank_newline _, blank_nil⟩, padded⟩
          · exact List.forall_mem_cons.mpr ⟨rfl, raws⟩

/-- The members of an object as its pretty text has them. -/
theorem exists_prettyMembers {members : Members} (nonempty : members ≠ []) (level : Nat) :
    ∃ written : List Entry, written ≠ [] ∧ written.map Entry.member = members ∧
      prettyMembers level members =
        [','].intercalate (written.map Entry.text) ++ ['\x7d'] ∧
      (∀ entry ∈ written, entry.Padded) ∧
      ∀ entry ∈ written, entry.item.raw = entry.item.value.prettyText (level + 1) := by
  have space : Blank [' '] := List.forall_mem_singleton.mpr (by decide)
  induction members with
  | nil => exact absurd rfl nonempty
  | cons member more ih =>
      obtain ⟨key, value⟩ := member
      have name := stringText_escaped key.toList
      cases more with
      | nil =>
          refine ⟨[⟨newline (level + 1), key.toList.flatMap escapeChar, key, [],
            ⟨[' '], value.prettyText (level + 1), newline level, value⟩⟩],
            List.cons_ne_nil _ _, rfl, ?_, ?_, ?_⟩
          · rw [List.map_singleton, List.intercalate_singleton]
            simp [prettyMembers, Entry.text, Item.text, stringText]
          · exact List.forall_mem_singleton.mpr
              ⟨blank_newline _, name, blank_nil, space, blank_newline _⟩
          · exact List.forall_mem_singleton.mpr rfl
      | cons next more =>
          obtain ⟨written, filled, values, text, padded, raws⟩ := ih (List.cons_ne_nil next more)
          refine ⟨⟨newline (level + 1), key.toList.flatMap escapeChar, key, [],
            ⟨[' '], value.prettyText (level + 1), [], value⟩⟩ :: written,
            List.cons_ne_nil _ _, congrArg ((key, value) :: ·) values, ?_, ?_, ?_⟩
          · rw [intercalate_map_cons Entry.text _ filled, List.append_assoc, List.cons_append, ← text]
            simp [prettyMembers, Entry.text, Item.text, stringText]
          · exact List.forall_mem_cons.mpr
              ⟨⟨blank_newline _, name, blank_nil, space, blank_nil⟩, padded⟩
          · exact List.forall_mem_cons.mpr ⟨rfl, raws⟩

theorem prettyText_array {items : List Json} (nonempty : items ≠ []) (level : Nat) :
    (array items).prettyText level = '[' :: prettyItems level items := by
  obtain ⟨item, more, rfl⟩ := List.exists_cons_of_ne_nil nonempty
  rfl

theorem prettyText_object {members : Members} (nonempty : members ≠ []) (level : Nat) :
    (object members).prettyText level = '\x7b' :: prettyMembers level members := by
  obtain ⟨member, more, rfl⟩ := List.exists_cons_of_ne_nil nonempty
  rfl

/-- The pretty text of a value is a way to write it wherever it is not too deep. -/
theorem valueText_prettyText {value : Json} (ordered : value.Ordered)
    (numbers : value.AllNumbers Number.ReadsBack) {allowance : Nat}
    (shallow : value.depth ≤ allowance) (level : Nat) :
    ValueText allowance (value.prettyText level) value := by
  induction value using Json.induction generalizing allowance level with
  | scalar value scalar =>
      rw [prettyText_of_scalar scalar]
      exact .scalar (scalarText_of_scalar scalar numbers)
  | array items ih =>
      obtain ⟨allowance, rfl⟩ := Nat.exists_eq_add_one_of_ne_zero (Nat.ne_zero_of_lt shallow)
      by_cases nonempty : items = []
      · subst nonempty
        exact .emptyArray blank_nil
      · obtain ⟨written, filled, rfl, text, padded, raws⟩ := exists_prettyItems nonempty level
        have orderedEach := orderedItems_iff.mp ordered
        have numbersEach := allNumbersItems_iff.mp numbers
        have shallowEach := depthItems_le_iff.mp (Nat.le_of_succ_le_succ shallow)
        rw [prettyText_array nonempty, text]
        refine .array filled padded fun item member => ?_
        have among := List.mem_map_of_mem (f := Item.value) member
        rw [raws item member]
        exact ih _ among (orderedEach _ among) (numbersEach _ among) (shallowEach _ among) _
  | object members ih =>
      obtain ⟨allowance, rfl⟩ := Nat.exists_eq_add_one_of_ne_zero (Nat.ne_zero_of_lt shallow)
      by_cases nonempty : members = []
      · subst nonempty
        exact .emptyObject blank_nil
      · obtain ⟨written, filled, rfl, text, padded, raws⟩ := exists_prettyMembers nonempty level
        have orderedEach := orderedMembers_iff.mp ordered.2
        have numbersEach := allNumbersMembers_iff.mp numbers
        have shallowEach := depthMembers_le_iff.mp (Nat.le_of_succ_le_succ shallow)
        have same : Members.ofList (written.map Entry.member) = written.map Entry.member :=
          ordered.1.ofList_eq
        have whole := ValueText.object filled padded fun entry member => by
          have among := List.mem_map_of_mem (f := Entry.member) member
          rw [raws entry member]
          exact ih _ among (orderedEach _ among) (numbersEach _ among) (shallowEach _ among) _
        rw [same] at whole
        rwa [prettyText_object nonempty, text]

/-! ## Whole texts -/

theorem readWithin?_pretty {value : Json} (ordered : value.Ordered)
    (numbers : value.AllNumbers Number.ReadsBack) {allowance : Nat}
    (shallow : value.depth ≤ allowance) : readWithin? allowance value.pretty = some value :=
  readWithin?_eq_some_iff.mpr
    (surrounded_ofList (valueText_prettyText ordered numbers shallow 0))

theorem read?_pretty_eq (value : Json) :
    read? value.pretty =
      match takeValue? (2 * (value.prettyText 0).length + 1) depthLimit
          (skipBlanks (value.prettyText 0)) with
      | some (value, rest) => if (skipBlanks rest).isEmpty then some value else none
      | none => none := by
  have chars : value.pretty.toList = value.prettyText 0 := String.toList_ofList
  rw [← chars]
  rfl

/-- A value is read from its pretty text exactly if it is not too deep. -/
theorem read?_pretty {value : Json} (ordered : value.Ordered)
    (numbers : value.AllNumbers Number.ReadsBack) :
    read? value.pretty = if value.depth ≤ depthLimit then some value else none := by
  split
  next shallow => exact readWithin?_pretty ordered numbers shallow
  next deep =>
    -- With enough of an allowance the text is read as this value, so no other is read with less.
    rw [Option.eq_none_iff_forall_ne_some]
    intro found read
    have accepted := accepted_of_read? read
    obtain ⟨before, raw, after, whole, blank, blankAfter, written⟩ :=
      read?_eq_some_iff.mp read
    have deeper : depthLimit ≤ value.depth := Nat.le_of_not_le deep
    have larger := readWithin?_eq_some_iff.mpr
      ⟨before, raw, after, whole, blank, blankAfter, written.mono deeper⟩
    rw [readWithin?_pretty ordered numbers (Nat.le_refl _)] at larger
    cases larger
    exact deep accepted.shallow

end WebviewHost.Json
