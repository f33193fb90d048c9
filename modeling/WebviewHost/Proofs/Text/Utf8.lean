import WebviewHost.Text.Utf8

/-!
# UTF-8 of a text

A text that is written in UTF-8 is read back character by character, whatever comes after it. So
replacing faults leaves a text alone, and does so in front of other bytes as well. Bytes without a
fault are those of exactly one text.
-/

set_option autoImplicit false

namespace WebviewHost.Text

variable {a : UInt8} {n : Nat}

/-! ## Bytes by their number -/

theorem toNat_ofNat_of_lt (small : n < 256) : (UInt8.ofNat n).toNat = n :=
  UInt8.toNat_ofNat_of_lt small

theorem isContinuation_ofNat (small : n < 64) : isContinuation (.ofNat (n + 0x80)) = true := by
  simp only [isContinuation, Bool.and_eq_true, decide_eq_true_eq, UInt8.le_iff_toNat_le,
    UInt8.reduceToNat]
  rw [toNat_ofNat_of_lt (by omega)]
  omega

theorem continuationBits_ofNat (small : n < 64) : continuationBits (.ofNat (n + 0x80)) = n := by
  unfold continuationBits
  rw [toNat_ofNat_of_lt (by omega)]
  omega

namespace Utf8Lead

theorem ofByte_single (small : a.toNat < 0x80) : ofByte a = .single := by
  simp only [ofByte, UInt8.lt_iff_toNat_lt, UInt8.reduceToNat]
  rw [if_pos small]

theorem ofByte_double (first : 0xc2 ≤ a.toNat) (last : a.toNat < 0xe0) : ofByte a = .double := by
  simp only [ofByte, UInt8.lt_iff_toNat_lt, UInt8.reduceToNat]
  rw [if_neg (by omega), if_neg (by omega), if_pos last]

theorem ofByte_triple (first : 0xe0 ≤ a.toNat) (last : a.toNat < 0xf0) :
    ofByte a = .triple (if a.toNat = 0xe0 then 0xa0 else 0x80)
      (if a.toNat = 0xed then 0x9f else 0xbf) := by
  simp only [ofByte, UInt8.lt_iff_toNat_lt, ← UInt8.toNat_inj, UInt8.reduceToNat]
  rw [if_neg (by omega), if_neg (by omega), if_neg (by omega), if_pos last]
  split <;> split <;> first | rfl | omega

theorem ofByte_quadruple (first : 0xf0 ≤ a.toNat) (last : a.toNat < 0xf5) :
    ofByte a = .quadruple (if a.toNat = 0xf0 then 0x90 else 0x80)
      (if a.toNat = 0xf4 then 0x8f else 0xbf) := by
  simp only [ofByte, UInt8.lt_iff_toNat_lt, ← UInt8.toNat_inj, UInt8.reduceToNat]
  rw [if_neg (by omega), if_neg (by omega), if_neg (by omega), if_neg (by omega),
    if_neg (by omega), if_neg (by omega)]
  by_cases lowest : a.toNat = 0xf0
  · simp [lowest]
  · by_cases highest : a.toNat = 0xf4
    · simp [highest]
    · rw [if_neg lowest, if_pos (by omega), if_neg lowest, if_neg highest]

end Utf8Lead

/-! ## Characters -/

theorem utf8Pieces_single {rest : List UInt8} (small : n < 0x80) :
    utf8Pieces (.ofNat n :: rest) = .char (Char.ofNat n) :: utf8Pieces rest := by
  have same : (UInt8.ofNat n).toNat = n := toNat_ofNat_of_lt (by omega)
  conv => lhs; unfold utf8Pieces
  rw [Utf8Lead.ofByte_single (by omega), same]

theorem utf8Pieces_double {rest : List UInt8} (first : 0x80 ≤ n) (last : n < 0x800) :
    utf8Pieces (.ofNat (n / 64 % 32 + 0xc0) :: .ofNat (n % 64 + 0x80) :: rest) =
      .char (Char.ofNat n) :: utf8Pieces rest := by
  have lead : (UInt8.ofNat (n / 64 % 32 + 0xc0)).toNat = n / 64 + 0xc0 := by
    rw [toNat_ofNat_of_lt (by omega)]
    omega
  have whole : (n / 64 + 0xc0) % 32 * 64 + n % 64 = n := by omega
  conv => lhs; unfold utf8Pieces
  rw [Utf8Lead.ofByte_double (by omega) (by omega)]
  dsimp only
  rw [if_pos (isContinuation_ofNat (by omega)), continuationBits_ofNat (by omega), lead, whole]

theorem utf8Pieces_triple {rest : List UInt8} (first : 0x800 ≤ n) (last : n < 0x10000)
    (character : n < 0xd800 ∨ 0xdfff < n) :
    utf8Pieces (.ofNat (n / 4096 % 16 + 0xe0) :: .ofNat (n / 64 % 64 + 0x80) ::
      .ofNat (n % 64 + 0x80) :: rest) = .char (Char.ofNat n) :: utf8Pieces rest := by
  have lead : (UInt8.ofNat (n / 4096 % 16 + 0xe0)).toNat = n / 4096 + 0xe0 := by
    rw [toNat_ofNat_of_lt (by omega)]
    omega
  have next : (UInt8.ofNat (n / 64 % 64 + 0x80)).toNat = n / 64 % 64 + 0x80 :=
    toNat_ofNat_of_lt (by omega)
  have whole : ((n / 4096 + 0xe0) % 16 * 64 + n / 64 % 64) * 64 + n % 64 = n := by omega
  conv => lhs; unfold utf8Pieces
  rw [Utf8Lead.ofByte_triple (by omega) (by omega)]
  dsimp only
  rw [if_pos, if_pos (isContinuation_ofNat (by omega)), continuationBits_ofNat (by omega),
    continuationBits_ofNat (by omega), lead, whole]
  simp only [Bool.and_eq_true, decide_eq_true_eq, UInt8.le_iff_toNat_le, lead, next,
    apply_ite UInt8.toNat, UInt8.reduceToNat]
  constructor <;> split <;> omega

theorem utf8Pieces_quadruple {rest : List UInt8} (first : 0x10000 ≤ n) (last : n < 0x110000) :
    utf8Pieces (.ofNat (n / 262144 % 8 + 0xf0) :: .ofNat (n / 4096 % 64 + 0x80) ::
      .ofNat (n / 64 % 64 + 0x80) :: .ofNat (n % 64 + 0x80) :: rest) =
      .char (Char.ofNat n) :: utf8Pieces rest := by
  have lead : (UInt8.ofNat (n / 262144 % 8 + 0xf0)).toNat = n / 262144 + 0xf0 := by
    rw [toNat_ofNat_of_lt (by omega)]
    omega
  have next : (UInt8.ofNat (n / 4096 % 64 + 0x80)).toNat = n / 4096 % 64 + 0x80 :=
    toNat_ofNat_of_lt (by omega)
  have whole : (((n / 262144 + 0xf0) % 8 * 64 + n / 4096 % 64) * 64 + n / 64 % 64) * 64 + n % 64 =
      n := by omega
  conv => lhs; unfold utf8Pieces
  rw [Utf8Lead.ofByte_quadruple (by omega) (by omega)]
  dsimp only
  rw [if_pos, if_pos (isContinuation_ofNat (by omega)), if_pos (isContinuation_ofNat (by omega)),
    continuationBits_ofNat (by omega), continuationBits_ofNat (by omega),
    continuationBits_ofNat (by omega), lead, whole]
  simp only [Bool.and_eq_true, decide_eq_true_eq, UInt8.le_iff_toNat_le, lead, next,
    apply_ite UInt8.toNat, UInt8.reduceToNat]
  constructor <;> split <;> omega

theorem utf8Pieces_encodeChar (value : Char) (rest : List UInt8) :
    utf8Pieces (String.utf8EncodeChar value ++ rest) = .char value :: utf8Pieces rest := by
  have same : Char.ofNat value.val.toNat = value := Char.ofNat_toNat value
  have valid : value.val.toNat < 0xd800 ∨
      0xdfff < value.val.toNat ∧ value.val.toNat < 0x110000 := value.valid
  unfold String.utf8EncodeChar
  generalize value.val.toNat = n at same valid
  subst same
  dsimp only
  -- One case for each number of bytes; what is left out of a case bounds the next one.
  split
  next small => exact utf8Pieces_single (by omega)
  next =>
    split
    next => exact utf8Pieces_double (by omega) (by omega)
    next =>
      split
      next => exact utf8Pieces_triple (by omega) (by omega) (by omega)
      next => exact utf8Pieces_quadruple (by omega) (by omega)

/-! ## Texts -/

theorem utf8Pieces_encodeUtf8 (text : String) (rest : List UInt8) :
    utf8Pieces (encodeUtf8 text ++ rest) = text.toList.map .char ++ utf8Pieces rest := by
  unfold encodeUtf8
  induction text.toList with
  | nil => rfl
  | cons value values ih =>
      rw [List.flatMap_cons, List.append_assoc, utf8Pieces_encodeChar, ih]
      rfl

theorem decodeUtf8Lossy_encodeUtf8_append (text : String) (rest : List UInt8) :
    decodeUtf8Lossy (encodeUtf8 text ++ rest) = text ++ decodeUtf8Lossy rest := by
  unfold decodeUtf8Lossy
  rw [utf8Pieces_encodeUtf8, List.map_append, List.map_map, String.ofList_append]
  refine congrArg (· ++ _) ?_
  exact (congrArg String.ofList (List.map_id text.toList)).trans String.ofList_toList

theorem decodeUtf8Lossy_encodeUtf8 (text : String) : decodeUtf8Lossy (encodeUtf8 text) = text := by
  have alone := decodeUtf8Lossy_encodeUtf8_append text []
  rw [List.append_nil] at alone
  exact alone.trans (String.append_empty)

/-! ## Bytes that are a text -/

theorem toByteArray_encodeUtf8 (text : String) :
    ⟨(encodeUtf8 text).toArray⟩ = text.toByteArray := by
  rw [← String.utf8Encode_toList]
  exact ByteArray.ext List.data_toByteArray.symm

theorem encodeUtf8_injective {left right : String} (same : encodeUtf8 left = encodeUtf8 right) :
    left = right := by
  rw [← String.toByteArray_inj, ← toByteArray_encodeUtf8, ← toByteArray_encodeUtf8, same]

theorem fromUTF8?_eq_some_iff {content : ByteArray} {text : String} :
    String.fromUTF8? content = some text ↔ text.toUTF8 = content := by
  unfold String.fromUTF8?
  constructor
  · intro read
    split at read
    next => cases read; rfl
    next => cases read
  · rintro rfl
    exact dif_pos text.isValidUTF8

theorem fromUTF8?_toArray_eq_some_iff {bytes : List UInt8} {text : String} :
    String.fromUTF8? ⟨bytes.toArray⟩ = some text ↔ bytes = encodeUtf8 text := by
  rw [fromUTF8?_eq_some_iff, String.toUTF8, ← toByteArray_encodeUtf8]
  constructor
  · intro same
    exact (congrArg (·.data.toList) same).symm
  · rintro rfl
    rfl

theorem decodeUtf8_eq_ok_iff {bytes : List UInt8} {text : String} :
    decodeUtf8 bytes = .ok text ↔ bytes = encodeUtf8 text := by
  rw [← fromUTF8?_toArray_eq_some_iff]
  unfold decodeUtf8
  constructor
  · intro decoded
    split at decoded
    next found read =>
      cases decoded
      exact read
    next => cases decoded
  · intro read
    rw [read]

end WebviewHost.Text
