import Mathlib.Algebra.Group.Int.Defs
import WebviewHost.Proofs.Json.Members
import WebviewHost.Proofs.Json.Reading

/-!
# What the reader accepts

Every value that is read is ordered, opens no more arrays and objects at once than the reader was
allowed to, and has only integers of 64 bits.
-/

set_option autoImplicit false

namespace WebviewHost

/-- An integer of 64 bits, with or without a sign. Doubles always fit. -/
def Number.Fits : Number → Prop
  | .integer value => -(2 ^ 63 : Int) ≤ value ∧ value < 2 ^ 64
  | .double _ => True

namespace Json

mutual

/-- Something holds of every number in a value. -/
def AllNumbers (holds : Number → Prop) : Json → Prop
  | .number value => holds value
  | .array items => AllNumbersItems holds items
  | .object members => AllNumbersMembers holds members
  | _ => True

def AllNumbersItems (holds : Number → Prop) : List Json → Prop
  | [] => True
  | item :: rest => item.AllNumbers holds ∧ AllNumbersItems holds rest

def AllNumbersMembers (holds : Number → Prop) : List (String × Json) → Prop
  | [] => True
  | (_, value) :: rest => value.AllNumbers holds ∧ AllNumbersMembers holds rest

end

/-! ## Items and members taken together -/

theorem depthItems_le_iff {items : List Json} {bound : Nat} :
    depthItems items ≤ bound ↔ ∀ item ∈ items, item.depth ≤ bound := by
  induction items with
  | nil => simp [depthItems]
  | cons item rest ih => simp only [depthItems, Nat.max_le, List.forall_mem_cons, ih]

theorem allNumbersItems_iff {holds : Number → Prop} {items : List Json} :
    AllNumbersItems holds items ↔ ∀ item ∈ items, item.AllNumbers holds := by
  induction items with
  | nil => simp [AllNumbersItems]
  | cons item rest ih => simp only [AllNumbersItems, List.forall_mem_cons, ih]

theorem orderedItems_iff {items : List Json} :
    OrderedItems items ↔ ∀ item ∈ items, item.Ordered := by
  induction items with
  | nil => simp [OrderedItems]
  | cons item rest ih => simp only [OrderedItems, List.forall_mem_cons, ih]

theorem depthMembers_le_iff {members : Members} {bound : Nat} :
    depthMembers members ≤ bound ↔ ∀ entry ∈ members, entry.2.depth ≤ bound := by
  induction members with
  | nil => simp [depthMembers]
  | cons entry rest ih =>
      obtain ⟨name, value⟩ := entry
      simp only [depthMembers, Nat.max_le, List.forall_mem_cons, ih]

theorem orderedMembers_iff {members : Members} :
    OrderedMembers members ↔ ∀ entry ∈ members, entry.2.Ordered := by
  induction members with
  | nil => simp [OrderedMembers]
  | cons entry rest ih =>
      obtain ⟨name, value⟩ := entry
      simp only [OrderedMembers, List.forall_mem_cons, ih]

theorem allNumbersMembers_iff {holds : Number → Prop} {members : Members} :
    AllNumbersMembers holds members ↔ ∀ entry ∈ members, entry.2.AllNumbers holds := by
  induction members with
  | nil => simp [AllNumbersMembers]
  | cons entry rest ih =>
      obtain ⟨name, value⟩ := entry
      simp only [AllNumbersMembers, List.forall_mem_cons, ih]

/-- What a reader with an allowance can return. -/
structure Accepted (allowance : Nat) (value : Json) : Prop where
  ordered : value.Ordered
  shallow : value.depth ≤ allowance
  numbers : value.AllNumbers Number.Fits

theorem Accepted.mono {allowance larger : Nat} {value : Json} (accepted : Accepted allowance value)
    (fewer : allowance ≤ larger) : Accepted larger value :=
  ⟨accepted.ordered, Nat.le_trans accepted.shallow fewer, accepted.numbers⟩

theorem Accepted.member? {allowance : Nat} {value member : Json} {key : String}
    (accepted : Accepted allowance value) (found : value.member? key = some member) :
    Accepted allowance member := by
  cases value with
  | object members =>
      have among := Members.mem_of_get?_eq_some found
      have below := depthMembers_le_iff.mp (Nat.le_refl _) _ among
      exact ⟨orderedMembers_iff.mp accepted.ordered.2 _ among,
        Nat.le_trans below (Nat.le_of_succ_le accepted.shallow),
        allNumbersMembers_iff.mp accepted.numbers _ among⟩
  | _ => cases found

theorem accepted_ofOption {allowance : Nat} {found : Option Json}
    (each : ∀ value, found = some value → Accepted allowance value) :
    Accepted allowance (.ofOption found) := by
  cases found with
  | none => exact ⟨trivial, Nat.zero_le _, trivial⟩
  | some value => exact each value rfl

/-! ## Reading -/

theorem accepted_array {allowance : Nat} {items : List Json}
    (each : ∀ item ∈ items, Accepted allowance item) :
    Accepted (allowance + 1) (.array items) := by
  refine ⟨?_, ?_, ?_⟩
  · exact orderedItems_iff.mpr fun item member => (each item member).ordered
  · exact Nat.succ_le_succ
      (depthItems_le_iff.mpr fun item member => (each item member).shallow)
  · exact allNumbersItems_iff.mpr fun item member => (each item member).numbers

theorem accepted_object {allowance : Nat} {entries : List (String × Json)}
    (each : ∀ entry ∈ entries, Accepted allowance entry.2) :
    Accepted (allowance + 1) (.object (Members.ofList entries)) := by
  have kept : ∀ entry ∈ Members.ofList entries, Accepted allowance entry.2 :=
    fun entry member => each entry (Members.mem_of_mem_ofList member)
  refine ⟨⟨Members.ordered_ofList entries, ?_⟩, ?_, ?_⟩
  · exact orderedMembers_iff.mpr fun entry member => (kept entry member).ordered
  · exact Nat.succ_le_succ
      (depthMembers_le_iff.mpr fun entry member => (kept entry member).shallow)
  · exact allNumbersMembers_iff.mpr fun entry member => (kept entry member).numbers

theorem fits_of_number? {literal : Number.Literal} {number : Number}
    (read : literal.number? = some number) : number.Fits := by
  unfold Number.Literal.number? at read
  dsimp only at read
  split at read
  · rename_i fits
    cases read
    simp only [Bool.and_eq_true, decide_eq_true_eq] at fits
    have bound : Number.ofDigits literal.whole < 2 ^ 64 := fits.2
    refine ⟨?_, ?_⟩ <;> omega
  · split at read
    · rename_i fits
      cases read
      simp only [Bool.and_eq_true, decide_eq_true_eq] at fits
      have bound : Number.ofDigits literal.whole ≤ 2 ^ 63 := fits.2
      refine ⟨?_, ?_⟩ <;> omega
    · obtain ⟨value, _, rfl⟩ := Option.map_eq_some_iff.mp read
      trivial

theorem accepted_of_scalarText {allowance : Nat} {raw : List Char} {value : Json}
    (written : ScalarText raw value) : Accepted allowance value := by
  cases written with
  | null => exact ⟨trivial, Nat.zero_le _, trivial⟩
  | bool value => exact ⟨trivial, Nat.zero_le _, trivial⟩
  | string text => exact ⟨trivial, Nat.zero_le _, trivial⟩
  | number literal denoted => exact ⟨trivial, Nat.zero_le _, fits_of_number? denoted⟩

theorem accepted_of_valueText {allowance : Nat} {raw : List Char} {value : Json}
    (written : ValueText allowance raw value) : Accepted allowance value := by
  induction written with
  | scalar written => exact accepted_of_scalarText written
  | emptyArray => exact accepted_array (List.forall_mem_nil _)
  | emptyObject => exact accepted_object (List.forall_mem_nil _)
  | array _ _ _ each => exact accepted_array (List.forall_mem_map.mpr each)
  | object _ _ _ each => exact accepted_object (List.forall_mem_map.mpr each)

theorem accepted_of_read? {text : String} {value : Json} (read : read? text = some value) :
    Accepted depthLimit value := by
  obtain ⟨_, _, _, _, _, _, written⟩ := read?_eq_some_iff.mp read
  exact accepted_of_valueText written

theorem accepted_of_readBytes? {content : ByteArray} {value : Json}
    (read : readBytes? content = some value) : Accepted depthLimit value := by
  obtain ⟨text, _, read⟩ := Option.bind_eq_some_iff.mp read
  exact accepted_of_read? read

end Json

end WebviewHost
