import Mathlib.Data.List.Forall2
import Mathlib.Tactic.IntervalCases
import WebviewHost.Proofs.Text.Utf8
import WebviewHost.Text.Percent

/-!
# What percent-encoded text says

Decoding as a relation between texts and bytes, which the decoder computes, and the ways to write a
text so that it decodes to this text.
-/

set_option autoImplicit false

namespace WebviewHost.Text

/-! ## Escapes -/

/-- The digit of a number below 16, in lower or upper case. -/
def IsHexDigit (value : Nat) (c : Char) : Prop :=
  "0123456789abcdef".toList[value]? = some c ∨ "0123456789ABCDEF".toList[value]? = some c

instance (value : Nat) (c : Char) : Decidable (IsHexDigit value c) :=
  inferInstanceAs (Decidable (_ ∨ _))

inductive IsEscape (byte : UInt8) : List Char → Prop where
  | intro {high low : Char} : IsHexDigit (byte.toNat / 16) high → IsHexDigit (byte.toNat % 16) low →
      IsEscape byte ['%', high, low]

/-- The bytes that a text decodes to. A character is read as itself only where no escape begins. -/
inductive Decodes : List Char → List UInt8 → Prop where
  | nil : Decodes [] []
  | escape {byte : UInt8} {written rest : List Char} {bytes : List UInt8} :
      IsEscape byte written → Decodes rest bytes → Decodes (written ++ rest) (byte :: bytes)
  | plain {c : Char} {rest : List Char} {bytes : List UInt8} :
      (∀ byte written, IsEscape byte written → ¬written <+: c :: rest) → Decodes rest bytes →
      Decodes (c :: rest) (String.utf8EncodeChar c ++ bytes)

/-- A text that decodes to the encoding of another. -/
def Reads (raw : List Char) (text : String) : Prop := Decodes raw (encodeUtf8 text)

theorem IsHexDigit.lt {value : Nat} {c : Char} (digit : IsHexDigit value c) : value < 16 := by
  rcases digit with lower | upper
  · exact (List.getElem?_eq_some_iff.mp lower).1
  · exact (List.getElem?_eq_some_iff.mp upper).1

theorem hexValue?_eq_some_iff {c : Char} {value : Nat} :
    hexValue? c = some value ↔ IsHexDigit value c := by
  constructor
  · intro read
    have range : (48 ≤ c.toNat ∧ c.toNat ≤ 57) ∨ (97 ≤ c.toNat ∧ c.toNat ≤ 102) ∨
        (65 ≤ c.toNat ∧ c.toNat ≤ 70) := by
      unfold hexValue? at read
      simp only [Bool.and_eq_true, decide_eq_true_eq, Char.le_def, UInt32.le_iff_toNat_le] at read
      change (if 48 ≤ c.toNat ∧ c.toNat ≤ 57 then _ else if 97 ≤ c.toNat ∧ c.toNat ≤ 102 then _
        else if 65 ≤ c.toNat ∧ c.toNat ≤ 70 then _ else none) = some value at read
      split at read
      next digit => exact .inl digit
      next =>
        split at read
        next lower => exact .inr (.inl lower)
        next =>
          split at read
          next upper => exact .inr (.inr upper)
          next => cases read
    obtain ⟨code, same⟩ : ∃ code, c.toNat = code := ⟨_, rfl⟩
    obtain rfl : c = Char.ofNat code := by rw [← same, Char.ofNat_toNat]
    rw [same] at range
    rcases range with ⟨low, high⟩ | ⟨low, high⟩ | ⟨low, high⟩ <;>
      interval_cases code <;> cases read <;> decide
  · intro digit
    have small := digit.lt
    rcases digit with found | found <;>
      interval_cases value <;> cases Option.some.inj found <;> decide

theorem hexByte?_eq_some_iff {high low : Char} {byte : UInt8} :
    hexByte? high low = some byte ↔ IsEscape byte ['%', high, low] := by
  unfold hexByte?
  constructor
  · intro read
    obtain ⟨first, highRead, rest⟩ := Option.bind_eq_some_iff.mp read
    obtain ⟨second, lowRead, made⟩ := Option.bind_eq_some_iff.mp rest
    cases made
    have highDigit := hexValue?_eq_some_iff.mp highRead
    have lowDigit := hexValue?_eq_some_iff.mp lowRead
    have highSmall := highDigit.lt
    have lowSmall := lowDigit.lt
    have value : (UInt8.ofNat (first * 16 + second)).toNat = first * 16 + second := by
      rw [UInt8.toNat_ofNat']
      omega
    constructor
    · rwa [value, show (first * 16 + second) / 16 = first by omega]
    · rwa [value, show (first * 16 + second) % 16 = second by omega]
  · rintro ⟨highDigit, lowDigit⟩
    rw [hexValue?_eq_some_iff.mpr highDigit, hexValue?_eq_some_iff.mpr lowDigit]
    have value : byte.toNat / 16 * 16 + byte.toNat % 16 = byte.toNat := by omega
    show some (UInt8.ofNat (byte.toNat / 16 * 16 + byte.toNat % 16)) = some byte
    rw [value, UInt8.ofNat_toNat]

def IsEscapeChar (c : Char) : Prop := c = '%' ∨ ∃ value, IsHexDigit value c

theorem isEscapeChar_iff {c : Char} : IsEscapeChar c ↔ c = '%' ∨ (hexValue? c).isSome := by
  unfold IsEscapeChar
  simp only [Option.isSome_iff_exists, hexValue?_eq_some_iff]

instance (c : Char) : Decidable (IsEscapeChar c) := decidable_of_iff _ isEscapeChar_iff.symm

theorem IsEscape.isEscapeChar {byte : UInt8} {written : List Char}
    (escape : IsEscape byte written) : ∀ c ∈ written, IsEscapeChar c := by
  cases escape with
  | intro high low =>
      rw [List.forall_mem_cons, List.forall_mem_cons, List.forall_mem_singleton]
      exact ⟨.inl rfl, .inr ⟨_, high⟩, .inr ⟨_, low⟩⟩

theorem exists_isEscape (byte : UInt8) : ∃ written, IsEscape byte written := by
  have digit : ∀ value < 16, ∃ c, IsHexDigit value c := fun value small =>
    ⟨"0123456789abcdef".toList[value], .inl (List.getElem?_eq_getElem small)⟩
  obtain ⟨high, highDigit⟩ := digit (byte.toNat / 16) (by have := byte.toNat_lt; omega)
  obtain ⟨low, lowDigit⟩ := digit (byte.toNat % 16) (by omega)
  exact ⟨_, .intro highDigit lowDigit⟩

/-! ## Decoding -/

theorem IsEscape.begins {byte : UInt8} {written rest : List Char} {c : Char}
    (escape : IsEscape byte written) (begins : written <+: c :: rest) :
    ∃ high low more, c = '%' ∧ rest = high :: low :: more ∧ hexByte? high low = some byte := by
  cases escape with
  | @intro high low highDigit lowDigit =>
      obtain ⟨more, whole⟩ := begins
      cases whole
      exact ⟨high, low, more, rfl, rfl, hexByte?_eq_some_iff.mpr (.intro highDigit lowDigit)⟩

theorem percentBytes_of_plain {c : Char} {rest : List Char}
    (plain : ∀ byte written, IsEscape byte written → ¬written <+: c :: rest) :
    percentBytes (c :: rest) = String.utf8EncodeChar c ++ percentBytes rest := by
  by_cases shape : c = '%' ∧ ∃ high low more, rest = high :: low :: more
  · obtain ⟨rfl, high, low, more, rfl⟩ := shape
    cases read : hexByte? high low with
    | some byte => exact absurd ⟨more, rfl⟩ (plain byte _ (hexByte?_eq_some_iff.mp read))
    | none =>
        rw [percentBytes.eq_2, read]
        rfl
  · exact percentBytes.eq_3 c rest fun high low more percent digits =>
      shape ⟨percent, high, low, more, digits⟩

theorem decodes_iff {raw : List Char} {bytes : List UInt8} :
    Decodes raw bytes ↔ percentBytes raw = bytes := by
  constructor
  · intro decodes
    induction decodes with
    | nil => rfl
    | escape escape _ ih =>
        cases escape with
        | @intro high low highDigit lowDigit =>
            show percentBytes ('%' :: high :: low :: _) = _
            rw [percentBytes.eq_2, hexByte?_eq_some_iff.mpr (.intro highDigit lowDigit)]
            exact congrArg _ ih
    | plain noEscape _ ih => rw [percentBytes_of_plain noEscape, ih]
  · rintro rfl
    fun_induction percentBytes raw with
    | case1 => exact .nil
    | case2 high low rest byte read ih => exact .escape (hexByte?_eq_some_iff.mp read) ih
    | case3 high low rest read ih =>
        refine .plain (fun byte written escape begins => ?_) ih
        obtain ⟨_, _, _, _, same, found⟩ := escape.begins begins
        cases same
        rw [read] at found
        cases found
    | case4 c rest shape ih =>
        refine .plain (fun byte written escape begins => ?_) ih
        obtain ⟨high, low, more, percent, digits, _⟩ := escape.begins begins
        exact shape high low more percent digits

theorem percentDecode?_eq_some_iff {raw : List Char} {text : String} :
    percentDecode? raw = some text ↔ Reads raw text := by
  unfold percentDecode? Reads
  rw [decodes_iff]
  exact fromUTF8?_toArray_eq_some_iff

theorem Reads.unique {raw : List Char} {text other : String} (reads : Reads raw text)
    (too : Reads raw other) : text = other :=
  encodeUtf8_injective ((decodes_iff.mp reads).symm.trans (decodes_iff.mp too))

/-! ## Spellings -/

/-- A way to write a text: each character as it is, unless it is a percent sign, or the escapes of
all bytes of its encoding. -/
inductive Spells : List Char → List Char → Prop where
  | nil : Spells [] []
  | literal {c : Char} {text raw : List Char} : c ≠ '%' → Spells text raw →
      Spells (c :: text) (c :: raw)
  | escaped {c : Char} {text raw : List Char} {escapes : List (List Char)} :
      List.Forall₂ IsEscape (String.utf8EncodeChar c) escapes → Spells text raw →
      Spells (c :: text) (escapes.flatten ++ raw)

theorem Decodes.escapes {bytes more : List UInt8} {escapes : List (List Char)} {raw : List Char}
    (written : List.Forall₂ IsEscape bytes escapes) (decodes : Decodes raw more) :
    Decodes (escapes.flatten ++ raw) (bytes ++ more) := by
  induction written with
  | nil => exact decodes
  | cons escape _ ih =>
      rw [List.flatten_cons, List.append_assoc]
      exact .escape escape ih

theorem Spells.reads {text raw : List Char} (spells : Spells text raw) :
    Reads raw (String.ofList text) := by
  unfold Reads encodeUtf8
  rw [String.toList_ofList]
  induction spells with
  | nil => exact .nil
  | literal other _ ih =>
      refine .plain (fun byte written escape begins => ?_) ih
      obtain ⟨_, _, _, percent, _⟩ := escape.begins begins
      exact other percent
  | escaped written _ ih => exact ih.escapes written

theorem isEscapeChar_of_mem_flatten {bytes : List UInt8} {escapes : List (List Char)}
    (written : List.Forall₂ IsEscape bytes escapes) : ∀ c ∈ escapes.flatten, IsEscapeChar c := by
  induction written with
  | nil => exact List.forall_mem_nil _
  | cons escape _ ih => exact List.forall_mem_append.mpr ⟨escape.isEscapeChar, ih⟩

theorem Spells.mem {text raw : List Char} (spells : Spells text raw) :
    ∀ c ∈ raw, c ∈ text ∨ IsEscapeChar c := by
  induction spells with
  | nil => exact List.forall_mem_nil _
  | literal _ _ ih =>
      refine List.forall_mem_cons.mpr ⟨.inl List.mem_cons_self, fun c member => ?_⟩
      exact (ih c member).imp_left (List.mem_cons_of_mem _)
  | escaped written _ ih =>
      refine List.forall_mem_append.mpr ⟨fun c member => ?_, fun c member => ?_⟩
      · exact .inr (isEscapeChar_of_mem_flatten written c member)
      · exact (ih c member).imp_left (List.mem_cons_of_mem _)

theorem exists_escapes (bytes : List UInt8) :
    ∃ escapes, List.Forall₂ IsEscape bytes escapes := by
  induction bytes with
  | nil => exact ⟨[], .nil⟩
  | cons byte bytes ih =>
      obtain ⟨written, escape⟩ := exists_isEscape byte
      obtain ⟨escapes, others⟩ := ih
      exact ⟨written :: escapes, .cons escape others⟩

theorem exists_spells (text : List Char) :
    ∃ raw, Spells text raw ∧ ∀ c ∈ raw, IsEscapeChar c := by
  induction text with
  | nil => exact ⟨[], .nil, List.forall_mem_nil _⟩
  | cons c text ih =>
      obtain ⟨raw, spells, plain⟩ := ih
      obtain ⟨escapes, written⟩ := exists_escapes (String.utf8EncodeChar c)
      exact ⟨_, .escaped written spells,
        List.forall_mem_append.mpr ⟨isEscapeChar_of_mem_flatten written, plain⟩⟩

end WebviewHost.Text
