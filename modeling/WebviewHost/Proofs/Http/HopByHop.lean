import Mathlib.Data.List.Basic
import WebviewHost.Proofs.Files.Path
import WebviewHost.Proofs.Http.EndToEnd
import WebviewHost.Proofs.Text.Blank

/-!
# Headers of one connection

Which headers go no further than one connection, said of the headers as they come, with names in any
case: those of eight names and those that a `connection` header nominates. They are dropped, and all
others are kept as they are.
-/

set_option autoImplicit false

namespace WebviewHost.Http

open WebviewHost.Files (mem_splitAt_iff splitAt)
open WebviewHost.Text (encodeUtf8 exists_trimBlanks isBlank trimBlanks trimBlanks_append)

/-! ## What a connection header nominates -/

def SameName (left right : String) : Prop :=
  left.toList.map Char.toLower = right.toList.map Char.toLower

def IsVisible (c : Char) : Prop := c = '\t' ∨ (' ' ≤ c ∧ c ≤ '~')

/-- A piece of a text between two commas, or where the text begins or ends. -/
def IsElement (text element : List Char) : Prop :=
  ',' ∉ element ∧ ∃ before after, text = before ++ element ++ after ∧
    (before = [] ∨ before.getLast? = some ',') ∧ (after = [] ∨ after.head? = some ',')

/-- A value nominates a name if it is visible text with an element that is this name, in whatever
case and with blanks around it. -/
def Nominates (value : List UInt8) (name : String) : Prop :=
  ∃ text : String, value = encodeUtf8 text ∧ (∀ c ∈ text.toList, IsVisible c) ∧
    ∃ left word right, IsElement text.toList (left ++ word ++ right) ∧
      (∀ c ∈ left ++ right, c = ' ' ∨ c = '\t') ∧
      word ≠ [] ∧ (∀ c ∈ word, isNameChar c = true) ∧ SameName (String.ofList word) name

theorem isElement_iff {text element : List Char} :
    IsElement text element ↔ element ∈ splitAt ',' text :=
  mem_splitAt_iff.symm

theorem visible_iff {c : Char} : IsVisible c ↔ c.toNat = 9 ∨ 32 ≤ c.toNat ∧ c.toNat < 127 := by
  have tab : c = '\t' ↔ c.toNat = 9 := Char.toNat_inj.symm
  unfold IsVisible
  rw [tab]
  exact or_congr_right (and_congr_right fun _ => Nat.lt_succ_iff.symm)

theorem utf8EncodeChar_of_visible {c : Char} (visible : IsVisible c) :
    String.utf8EncodeChar c = [UInt8.ofNat c.toNat] := by
  have range := visible_iff.mp visible
  have short : c.val.toNat ≤ 0x7f := by
    show c.toNat ≤ 127
    omega
  unfold String.utf8EncodeChar
  exact if_pos short

theorem toNat_ofNat_of_visible {c : Char} (visible : IsVisible c) :
    (UInt8.ofNat c.toNat).toNat = c.toNat := by
  have range := visible_iff.mp visible
  rw [UInt8.toNat_ofNat']
  omega

theorem encodeUtf8_of_visible {text : List Char} (visible : ∀ c ∈ text, IsVisible c) :
    encodeUtf8 (String.ofList text) = text.map fun c => UInt8.ofNat c.toNat := by
  unfold encodeUtf8
  rw [String.toList_ofList]
  induction text with
  | nil => rfl
  | cons c rest ih =>
      obtain ⟨here, others⟩ := List.forall_mem_cons.mp visible
      rw [List.flatMap_cons, List.map_cons, utf8EncodeChar_of_visible here, ih others]
      rfl

theorem toNat_charOf (byte : UInt8) : (Char.ofNat byte.toNat).toNat = byte.toNat := by
  have small := byte.toNat_lt
  unfold Char.ofNat
  rw [dif_pos (.inl (by omega))]
  rfl

theorem isPrinted_iff {byte : UInt8} :
    (decide (byte = 0x09) || (decide (0x20 ≤ byte) && decide (byte < 0x7f))) = true ↔
      IsVisible (Char.ofNat byte.toNat) := by
  rw [visible_iff, toNat_charOf]
  simp [UInt8.le_iff_toNat_le, UInt8.lt_iff_toNat_lt, ← UInt8.toNat_inj]

/-- A value is visible text if its bytes are the encoding of visible characters. -/
theorem visibleText?_eq_some_iff {value : List UInt8} {text : List Char} :
    visibleText? value = some text ↔
      value = encodeUtf8 (String.ofList text) ∧ ∀ c ∈ text, IsVisible c := by
  unfold visibleText?
  constructor
  · intro read
    split at read
    next all =>
      cases read
      have visible : ∀ c ∈ value.map fun byte => Char.ofNat byte.toNat, IsVisible c := by
        intro c member
        obtain ⟨byte, inside, rfl⟩ := List.mem_map.mp member
        exact isPrinted_iff.mp (List.all_eq_true.mp all byte inside)
      refine ⟨?_, visible⟩
      rw [encodeUtf8_of_visible visible, List.map_map]
      have same : ∀ byte ∈ value,
          ((fun c => UInt8.ofNat c.toNat) ∘ fun byte : UInt8 => Char.ofNat byte.toNat) byte =
            byte := by
        intro byte _
        exact (congrArg UInt8.ofNat (toNat_charOf byte)).trans UInt8.ofNat_toNat
      rw [List.map_congr_left same, List.map_id']
    next => cases read
  · rintro ⟨rfl, visible⟩
    have back : ∀ c ∈ text,
        ((fun byte : UInt8 => Char.ofNat byte.toNat) ∘ fun c => UInt8.ofNat c.toNat) c = c := by
      intro c member
      exact (congrArg Char.ofNat (toNat_ofNat_of_visible (visible c member))).trans
        (Char.ofNat_toNat c)
    rw [encodeUtf8_of_visible visible, if_pos, List.map_map, List.map_congr_left back,
      List.map_id']
    rw [List.all_map, List.all_eq_true]
    intro c member
    refine isPrinted_iff.mpr ?_
    have same : Char.ofNat (UInt8.ofNat c.toNat).toNat = c := back c member
    rw [same]
    exact visible c member

theorem headerName?_eq_some_iff {text : List Char} {name : String} :
    headerName? text = some name ↔
      text ≠ [] ∧ (∀ c ∈ text, isNameChar c = true) ∧
        String.ofList (text.map Char.toLower) = name := by
  unfold headerName?
  cases text with
  | nil => simp
  | cons c rest => simp [and_assoc]

theorem isBlank_of_isNameChar {c : Char} (ofName : isNameChar c = true) : isBlank c = false := by
  have others : ("!#$%&'*+-.^_\x60|~".toList.all fun c => !isBlank c) = true := by decide
  unfold isNameChar at ofName
  rcases Bool.or_eq_true_iff.mp ofName with letter | other
  · have ranges : ((decide (c.val ≥ 'A'.val ∧ c.val ≤ 'Z'.val) ||
        c.val ≥ 'a'.val && c.val ≤ 'z'.val) || c.val ≥ '0'.val && c.val ≤ '9'.val) = true := letter
    simp only [Bool.or_eq_true, Bool.and_eq_true, decide_eq_true_eq, UInt32.le_iff_toNat_le]
      at ranges
    change ((65 ≤ c.toNat ∧ c.toNat ≤ 90) ∨ (97 ≤ c.toNat ∧ c.toNat ≤ 122)) ∨
      (48 ≤ c.toNat ∧ c.toNat ≤ 57) at ranges
    unfold isBlank
    simp
    omega
  · have solid := List.all_eq_true.mp others c (List.contains_iff_mem.mp other)
    rwa [Bool.not_eq_eq_eq_not, Bool.not_true] at solid

theorem isNameChar_of_toLower {c : Char} (ofName : isNameChar c.toLower = true) :
    isNameChar c = true := by
  by_cases upper : c.val ≥ 'A'.val ∧ c.val ≤ 'Z'.val
  · have letter : c.isUpper = true := decide_eq_true upper
    have capital : c.isAlphanum = true :=
      Bool.or_eq_true_iff.mpr (.inl (Bool.or_eq_true_iff.mpr (.inl letter)))
    simp [isNameChar, capital]
  · unfold Char.toLower at ofName
    rwa [dif_neg upper] at ofName

theorem isBlank_iff_of_visible {c : Char} (visible : IsVisible c) :
    isBlank c = true ↔ c = ' ' ∨ c = '\t' := by
  have range := visible_iff.mp visible
  have space : c = ' ' ↔ c.toNat = 32 := Char.toNat_inj.symm
  have tab : c = '\t' ↔ c.toNat = 9 := Char.toNat_inj.symm
  rw [space, tab]
  unfold isBlank
  simp
  omega

/-! ## Names without regard to case -/

def lowered (name : String) : String := String.ofList (name.toList.map Char.toLower)

theorem sameName_iff {left right : String} :
    SameName left right ↔ lowered left = lowered right := by
  unfold SameName lowered
  exact String.ofList_inj.symm

theorem isName_of_sameName {left right : String} (same : SameName left right)
    (nonempty : right.toList ≠ []) (named : (right.toList.all (isNameChar ·.toLower)) = true) :
    left.toList ≠ [] ∧ ∀ c ∈ left.toList, isNameChar c = true := by
  unfold SameName at same
  constructor
  · intro empty
    rw [empty] at same
    exact nonempty (List.map_eq_nil_iff.mp same.symm)
  · intro c member
    have lower : c.toLower ∈ right.toList.map Char.toLower := same ▸ List.mem_map_of_mem member
    obtain ⟨other, inside, equal⟩ := List.mem_map.mp lower
    exact isNameChar_of_toLower (equal ▸ List.all_eq_true.mp named other inside)

theorem lowered_of_hopByHop {name : String} (fixed : name ∈ hopByHop) : lowered name = name := by
  have all : ∀ name ∈ hopByHop, lowered name = name := by decide
  exact all name fixed

theorem nominates_iff {value : List UInt8} {name : String} :
    Nominates value name ↔ Lists value (lowered name) := by
  constructor
  · rintro ⟨text, rfl, visible, left, word, right, element, blank, nonempty, named, same⟩
    have read : visibleText? (encodeUtf8 text) = some text.toList :=
      visibleText?_eq_some_iff.mpr ⟨by rw [String.ofList_toList], visible⟩
    have around : ∀ c ∈ left ++ right, isBlank c = true := by
      intro c member
      rcases blank c member with rfl | rfl <;> rfl
    have trimmed : trimBlanks (left ++ word ++ right) = word :=
      trimBlanks_append nonempty around fun c member => isBlank_of_isNameChar (named c member)
    refine ⟨_, read, _, isElement_iff.mp element, ?_⟩
    rw [trimmed]
    refine headerName?_eq_some_iff.mpr ⟨nonempty, named, ?_⟩
    rw [← sameName_iff.mp same]
    unfold lowered
    rw [String.toList_ofList]
  · rintro ⟨text, read, element, member, header⟩
    obtain ⟨rfl, visible⟩ := visibleText?_eq_some_iff.mp read
    obtain ⟨nonempty, named, same⟩ := headerName?_eq_some_iff.mp header
    obtain ⟨left, right, whole, blank⟩ := exists_trimBlanks element
    have isElement := isElement_iff.mpr member
    obtain ⟨_, before, after, parts, _, _⟩ := isElement
    refine ⟨_, rfl, by rwa [String.toList_ofList], left, trimBlanks element, right, ?_, ?_,
      nonempty, named, ?_⟩
    · rw [String.toList_ofList, ← whole]
      exact isElement_iff.mpr member
    · intro c around
      have inside : c ∈ text := by
        have outer : c ∈ element := by
          rw [whole]
          rcases List.mem_append.mp around with front | back
          · exact List.mem_append_left _ (List.mem_append_left _ front)
          · exact List.mem_append_right _ back
        rw [parts]
        exact List.mem_append_left _ (List.mem_append_right _ outer)
      exact (isBlank_iff_of_visible (visible c inside)).mp (blank c around)
    · rw [sameName_iff, ← same]
      unfold lowered
      rw [String.toList_ofList]

/-! ## What stays -/

def Headers.ofEntries (entries : List (String × List UInt8)) : Headers :=
  entries.filterMap fun entry => Header.make? entry.1 entry.2

/-- A name of headers that go no further than one connection: one of the eight names of such headers
or one that a `connection` header nominates. -/
def OfConnection (entries : List (String × List UInt8)) (name : String) : Prop :=
  (∃ fixed ∈ hopByHop, SameName fixed name) ∨
    ∃ entry ∈ entries, SameName entry.1 "connection" ∧ Nominates entry.2 name

theorem make?_eq_some_iff {name : String} {value : List UInt8} {header : Header} :
    Header.make? name value = some header ↔
      (name.toList ≠ [] ∧ ∀ c ∈ name.toList, isNameChar c = true) ∧
        (∀ byte ∈ value, isValueByte byte = true) ∧ header = ⟨lowered name, value⟩ := by
  unfold Header.make?
  cases read : headerName? name.toList with
  | none =>
      refine ⟨fun made => (nomatch made), ?_⟩
      rintro ⟨⟨nonempty, named⟩, _, _⟩
      rw [headerName?_eq_some_iff.mpr ⟨nonempty, named, rfl⟩] at read
      cases read
  | some low =>
      obtain ⟨nonempty, named, rfl⟩ := headerName?_eq_some_iff.mp read
      by_cases plain : value.all isValueByte = true
      · have all := List.all_eq_true.mp plain
        simp only [if_pos plain, Option.some.injEq]
        constructor
        · rintro rfl
          exact ⟨⟨nonempty, named⟩, all, rfl⟩
        · rintro ⟨_, _, rfl⟩
          rfl
      · simp only [if_neg plain]
        refine ⟨fun made => (nomatch made), ?_⟩
        rintro ⟨_, all, _⟩
        exact absurd (List.all_eq_true.mpr all) plain

theorem Nominates.isValueByte {value : List UInt8} {name : String}
    (nominates : Nominates value name) : ∀ byte ∈ value, isValueByte byte = true := by
  obtain ⟨text, rfl, visible, _⟩ := nominates
  intro byte member
  obtain ⟨c, inside, encoded⟩ := List.mem_flatMap.mp member
  rw [utf8EncodeChar_of_visible (visible c inside)] at encoded
  cases List.mem_singleton.mp encoded
  have range := visible_iff.mp (visible c inside)
  have code := toNat_ofNat_of_visible (visible c inside)
  unfold Http.isValueByte
  simp [UInt8.le_iff_toNat_le, ← UInt8.toNat_inj, code]
  omega

theorem mem_values_ofEntries_iff {entries : List (String × List UInt8)} {name : String}
    {value : List UInt8} :
    value ∈ (Headers.ofEntries entries).values name ↔
      ∃ entry ∈ entries, Header.make? entry.1 entry.2 = some ⟨name, value⟩ := by
  unfold Headers.values Headers.ofEntries
  simp only [List.mem_map, List.mem_filter, List.mem_filterMap, decide_eq_true_eq]
  constructor
  · rintro ⟨header, ⟨⟨entry, member, made⟩, rfl⟩, rfl⟩
    exact ⟨entry, member, made⟩
  · rintro ⟨entry, member, made⟩
    exact ⟨_, ⟨⟨entry, member, made⟩, rfl⟩, rfl⟩

theorem ofConnection_iff {entries : List (String × List UInt8)} {name : String} :
    OfConnection entries name ↔
      lowered name ∈ hopByHop ++ nominated (Headers.ofEntries entries) := by
  rw [List.mem_append, mem_nominated_iff]
  unfold OfConnection
  refine or_congr ?_ ?_
  · constructor
    · rintro ⟨fixed, member, same⟩
      rwa [← sameName_iff.mp same, lowered_of_hopByHop member]
    · intro member
      exact ⟨_, member, sameName_iff.mpr (lowered_of_hopByHop member)⟩
  · have connection : lowered "connection" = "connection" :=
      lowered_of_hopByHop List.mem_cons_self
    constructor
    · rintro ⟨entry, member, same, nominates⟩
      have low := (sameName_iff.mp same).trans connection
      refine ⟨entry.2, mem_values_ofEntries_iff.mpr ⟨entry, member, ?_⟩, nominates_iff.mp nominates⟩
      exact make?_eq_some_iff.mpr ⟨isName_of_sameName same (by decide) (by decide),
        nominates.isValueByte, by rw [low]⟩
    · rintro ⟨value, given, lists⟩
      obtain ⟨entry, member, made⟩ := mem_values_ofEntries_iff.mp given
      obtain ⟨_, _, header⟩ := make?_eq_some_iff.mp made
      obtain ⟨low, rfl⟩ := Header.mk.injEq _ _ _ _ ▸ header
      have same := sameName_iff.mpr (low.symm.trans connection.symm)
      exact ⟨entry, member, same, nominates_iff.mpr lists⟩

instance (entries : List (String × List UInt8)) (name : String) :
    Decidable (OfConnection entries name) :=
  decidable_of_iff _ ofConnection_iff.symm

theorem endToEnd_endToEnd (headers : Headers) : endToEnd (endToEnd headers) = endToEnd headers := by
  -- No `connection` header is left that could nominate anything.
  have gone : (endToEnd headers).values "connection" = [] := by
    rw [values_endToEnd]
    exact if_neg fun kept => kept.notHopByHop List.mem_cons_self
  have nothing : nominated (endToEnd headers) = [] := by
    unfold nominated
    rw [gone]
    rfl
  rw [endToEnd_eq_filter (endToEnd headers), nothing, List.append_nil, List.filter_eq_self]
  intro header member
  rw [endToEnd_eq_filter] at member
  obtain ⟨_, kept⟩ := List.mem_filter.mp member
  rw [decide_eq_true_eq] at kept ⊢
  exact fun fixed => kept (List.mem_append_left _ fixed)

theorem endToEnd_ofEntries (entries : List (String × List UInt8)) :
    endToEnd (Headers.ofEntries entries) =
      Headers.ofEntries (entries.filter fun entry => ¬OfConnection entries entry.1) := by
  rw [endToEnd_eq_filter]
  unfold Headers.ofEntries
  rw [List.filter_filterMap, List.filterMap_filter]
  refine List.filterMap_congr fun entry _ => ?_
  cases made : Header.make? entry.1 entry.2 with
  | none => simp
  | some header =>
      obtain ⟨_, _, rfl⟩ := make?_eq_some_iff.mp made
      have same := @ofConnection_iff entries entry.1
      unfold Headers.ofEntries at same
      by_cases dropped : OfConnection entries entry.1
      · simp [dropped, Option.filter, ← same]
      · simp [dropped, Option.filter, ← same]

/-- Dropped are the headers of one connection and no others: those that stay keep their values and
their order, all values of a name stay or none, and there is nothing left to drop. -/
theorem endToEnd_exact (entries : List (String × List UInt8)) :
    endToEnd (Headers.ofEntries entries) =
        Headers.ofEntries (entries.filter fun entry => ¬OfConnection entries entry.1) ∧
      (∀ name, (endToEnd (Headers.ofEntries entries)).values (lowered name) =
        if OfConnection entries name then []
        else (Headers.ofEntries entries).values (lowered name)) ∧
      endToEnd (endToEnd (Headers.ofEntries entries)) = endToEnd (Headers.ofEntries entries) := by
  refine ⟨endToEnd_ofEntries entries, fun name => ?_, endToEnd_endToEnd _⟩
  rw [values_endToEnd]
  unfold endToEndValues
  simp only [endToEnd_iff, ← ofConnection_iff, ite_not]

/-- Nominated in another case and among malformed elements, by the second of two headers. -/
example :
    endToEnd (Headers.ofEntries [("X-Kept", [49]), ("Connection", [99, 108, 111, 115, 101]),
      ("x-one", [50]), ("CONNECTION", [44, 32, 9, 88, 45, 79, 78, 69, 44, 40, 41]),
      ("x-kept", [51])]) = [⟨"x-kept", [49]⟩, ⟨"x-kept", [51]⟩] := by
  decide

end WebviewHost.Http
