import WebviewHost.Json.Reader
import WebviewHost.Proofs.Number.Spelling

/-!
# Grammar of JSON texts

How values are written and what a text denotes, said without a reader: the parts of a value stand
one after the other, with blanks around each. Texts that open too many arrays and objects at once
denote nothing, and neither do numbers that no double comes near to.
-/

set_option autoImplicit false

namespace WebviewHost.Json

open WebviewHost.Number (LiteralText)
open WebviewHost.Text (hexNumber?)

/-! ## Strings -/

/-- A way to write one character of a string: as it is, or by an escape. -/
inductive CharText : List Char → Char → Prop where
  | plain {c : Char} : c ≠ '"' → c ≠ '\\' → 0x20 ≤ c.toNat → CharText [c] c
  | escape {c meant : Char} : simpleEscape? c = some meant → CharText ['\\', c] meant
  | unit {a b c d : Char} {unit : Nat} : hexNumber? [a, b, c, d] = some unit →
      isHighSurrogate unit = false → isLowSurrogate unit = false →
      CharText ['\\', 'u', a, b, c, d] (Char.ofNat unit)
  | pair {a b c d e f g h : Char} {high low : Nat} : hexNumber? [a, b, c, d] = some high →
      isHighSurrogate high = true → hexNumber? [e, f, g, h] = some low →
      isLowSurrogate low = true →
      CharText ['\\', 'u', a, b, c, d, '\\', 'u', e, f, g, h] (pairChar high low)

/-- A way to write a string, its quotes apart. -/
inductive StringText : List Char → List Char → Prop where
  | nil : StringText [] []
  | cons {piece raw text : List Char} {c : Char} : CharText piece c → StringText raw text →
      StringText (piece ++ raw) (c :: text)

/-! ## Values -/

inductive ScalarText : List Char → Json → Prop where
  | null : ScalarText "null".toList .null
  | bool (value : Bool) : ScalarText (if value then "true" else "false").toList (.bool value)
  | string {raw : List Char} {value : String} : StringText raw value.toList →
      ScalarText ('"' :: raw ++ ['"']) (.string value)
  | number {raw : List Char} {literal : Number.Literal} {number : Number} :
      LiteralText raw literal → literal.number? = some number → ScalarText raw (.number number)

def Blank (gap : List Char) : Prop := ∀ c ∈ gap, isBlank c = true

theorem blank_nil : Blank [] := fun _ member => absurd member List.not_mem_nil

/-- A value as it is written among others, with what stands before and after it. -/
structure Item where
  before : List Char
  raw : List Char
  after : List Char
  value : Json

def Item.text (item : Item) : List Char := item.before ++ item.raw ++ item.after

structure Item.Padded (item : Item) : Prop where
  before : Blank item.before
  after : Blank item.after

/-- A member of an object as it is written. -/
structure Entry where
  before : List Char
  rawName : List Char
  name : String
  gap : List Char
  item : Item

def Entry.text (entry : Entry) : List Char :=
  entry.before ++ '"' :: entry.rawName ++ '"' :: entry.gap ++ ':' :: entry.item.text

def Entry.member (entry : Entry) : String × Json := (entry.name, entry.item.value)

structure Entry.Padded (entry : Entry) : Prop where
  before : Blank entry.before
  name : StringText entry.rawName entry.name.toList
  gap : Blank entry.gap
  item : entry.item.Padded

/-- How a value is written that opens no more arrays and objects at once than is allowed. Of members
with one name the last one counts. -/
inductive ValueText : Nat → List Char → Json → Prop where
  | scalar {allowance : Nat} {raw : List Char} {value : Json} : ScalarText raw value →
      ValueText allowance raw value
  | emptyArray {allowance : Nat} {gap : List Char} : Blank gap →
      ValueText (allowance + 1) ('[' :: gap ++ [']']) (.array [])
  | array {allowance : Nat} {items : List Item} : items ≠ [] → (∀ item ∈ items, item.Padded) →
      (∀ item ∈ items, ValueText allowance item.raw item.value) →
      ValueText (allowance + 1) ('[' :: [','].intercalate (items.map Item.text) ++ [']'])
        (.array (items.map Item.value))
  | emptyObject {allowance : Nat} {gap : List Char} : Blank gap →
      ValueText (allowance + 1) ('\x7b' :: gap ++ ['\x7d']) (.object [])
  | object {allowance : Nat} {entries : List Entry} : entries ≠ [] →
      (∀ entry ∈ entries, entry.Padded) →
      (∀ entry ∈ entries, ValueText allowance entry.item.raw entry.item.value) →
      ValueText (allowance + 1)
        ('\x7b' :: [','].intercalate (entries.map Entry.text) ++ ['\x7d'])
        (.object (Members.ofList (entries.map Entry.member)))

/-- How an object is written, with its members as they are written. -/
inductive MembersText : Nat → List Char → List (String × Json) → Prop where
  | empty {allowance : Nat} {gap : List Char} : Blank gap →
      MembersText (allowance + 1) ('\x7b' :: gap ++ ['\x7d']) []
  | entries {allowance : Nat} {entries : List Entry} : entries ≠ [] →
      (∀ entry ∈ entries, entry.Padded) →
      (∀ entry ∈ entries, ValueText allowance entry.item.raw entry.item.value) →
      MembersText (allowance + 1)
        ('\x7b' :: [','].intercalate (entries.map Entry.text) ++ ['\x7d'])
        (entries.map Entry.member)

theorem valueText_object_iff {allowance : Nat} {raw : List Char} {members : Members} :
    ValueText allowance raw (.object members) ↔
      ∃ entries, MembersText allowance raw entries ∧ members = Members.ofList entries := by
  constructor
  · intro written
    cases written with
    | scalar written => cases written
    | emptyObject blank => exact ⟨[], .empty blank, rfl⟩
    | object nonempty padded each => exact ⟨_, .entries nonempty padded each, rfl⟩
  · rintro ⟨entries, written, rfl⟩
    cases written with
    | empty blank => exact .emptyObject blank
    | entries nonempty padded each => exact .object nonempty padded each

theorem ValueText.mono {allowance larger : Nat} {raw : List Char} {value : Json}
    (written : ValueText allowance raw value) (fewer : allowance ≤ larger) :
    ValueText larger raw value := by
  induction written generalizing larger with
  | scalar written => exact .scalar written
  | emptyArray blank =>
      obtain ⟨larger, rfl⟩ := Nat.exists_eq_add_one_of_ne_zero (Nat.ne_zero_of_lt fewer)
      exact .emptyArray blank
  | emptyObject blank =>
      obtain ⟨larger, rfl⟩ := Nat.exists_eq_add_one_of_ne_zero (Nat.ne_zero_of_lt fewer)
      exact .emptyObject blank
  | array nonempty padded _ ih =>
      obtain ⟨larger, rfl⟩ := Nat.exists_eq_add_one_of_ne_zero (Nat.ne_zero_of_lt fewer)
      exact .array nonempty padded fun item member =>
        ih item member (Nat.le_of_succ_le_succ fewer)
  | object nonempty padded _ ih =>
      obtain ⟨larger, rfl⟩ := Nat.exists_eq_add_one_of_ne_zero (Nat.ne_zero_of_lt fewer)
      exact .object nonempty padded fun entry member =>
        ih entry member (Nat.le_of_succ_le_succ fewer)

/-! ## Whole texts -/

/-- A text with nothing but blanks around something that is written so. -/
def Surrounded (text : String) (written : List Char → Prop) : Prop :=
  ∃ before raw after, text.toList = before ++ raw ++ after ∧ Blank before ∧ Blank after ∧
    written raw

theorem surrounded_ofList {raw : List Char} {written : List Char → Prop} (whole : written raw) :
    Surrounded (String.ofList raw) written := by
  refine ⟨[], raw, [], ?_, blank_nil, blank_nil, whole⟩
  rw [List.nil_append, List.append_nil]
  exact String.toList_ofList

theorem Surrounded.append {text gap : String} {written : List Char → Prop}
    (surrounded : Surrounded text written) (blank : Blank gap.toList) :
    Surrounded (text ++ gap) written := by
  obtain ⟨before, raw, after, whole, blankBefore, blankAfter, inside⟩ := surrounded
  refine ⟨before, raw, after ++ gap.toList, ?_, blankBefore, ?_, inside⟩
  · rw [String.toList_append, whole, List.append_assoc]
  · exact List.forall_mem_append.mpr ⟨blankAfter, blank⟩

/-- What a text denotes that opens no more arrays and objects at once than the reader allows. -/
def Denotes (text : String) (value : Json) : Prop :=
  Surrounded text fun raw => ValueText depthLimit raw value

/-- Bytes that are UTF-8 of an object's text. -/
def ObjectBytes (content : ByteArray) (entries : List (String × Json)) : Prop :=
  ∃ text : String, text.toUTF8 = content ∧
    Surrounded text fun raw => MembersText depthLimit raw entries

end WebviewHost.Json
