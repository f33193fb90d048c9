import WebviewHost.Json.Printer
import WebviewHost.Proofs.Json.Grammar

/-!
# Strings that are written

What a string is escaped to is a way to write that string, one character after the other.
-/

set_option autoImplicit false

namespace WebviewHost.Json

open WebviewHost.Text (hexNumber?)

theorem hexUnit_of_control {unit : Nat} (control : unit < 0x20) :
    ∃ high low, hexUnit unit = ['0', '0', high, low] ∧
      hexNumber? ['0', '0', high, low] = some unit := by
  have every : ∀ unit : Fin 0x20,
      hexUnit unit = ['0', '0', Nat.digitChar (unit / 16), Nat.digitChar (unit % 16)] ∧
        hexNumber? ['0', '0', Nat.digitChar (unit / 16), Nat.digitChar (unit % 16)] =
          some unit.val := by
    decide
  exact ⟨_, _, every ⟨unit, control⟩⟩

theorem charText_of_control {c : Char} (control : c.toNat < 0x20) :
    CharText ('\\' :: 'u' :: hexUnit c.toNat) c := by
  obtain ⟨high, low, text, digits⟩ := hexUnit_of_control control
  have notHigh : isHighSurrogate c.toNat = false := by
    simp only [isHighSurrogate, Bool.and_eq_false_iff, decide_eq_false_iff_not]
    omega
  have notLow : isLowSurrogate c.toNat = false := by
    simp only [isLowSurrogate, Bool.and_eq_false_iff, decide_eq_false_iff_not]
    omega
  have written := CharText.unit digits notHigh notLow
  rw [Char.ofNat_toNat] at written
  rw [text]
  exact written

theorem charText_escapeChar (c : Char) : CharText (escapeChar c) c := by
  unfold escapeChar
  split
  · exact .escape rfl
  · exact .escape rfl
  · exact .escape rfl
  · exact .escape rfl
  · exact .escape rfl
  · exact .escape rfl
  · exact .escape rfl
  · rename_i noQuote noEscape _ _ _ _ _
    split
    · rename_i control
      exact charText_of_control control
    · rename_i shown
      exact .plain noQuote noEscape (Nat.not_lt.mp shown)

theorem stringText_escaped (text : List Char) : StringText (text.flatMap escapeChar) text := by
  induction text with
  | nil => exact .nil
  | cons c text ih => exact .cons (charText_escapeChar c) ih

theorem denotes_compact_string (text : String) : Denotes (compact (.string text)) (.string text) :=
  surrounded_ofList (.scalar (.string (stringText_escaped text.toList)))

/-! ## Strings are shorter than their texts -/

theorem CharText.length_pos {piece : List Char} {c : Char} (written : CharText piece c) :
    0 < piece.length := by
  cases written <;> exact Nat.succ_pos _

theorem StringText.length_le {raw text : List Char} (written : StringText raw text) :
    text.length ≤ raw.length := by
  induction written with
  | nil => exact Nat.le_refl 0
  | cons piece _ ih =>
      have := piece.length_pos
      rw [List.length_cons, List.length_append]
      omega

/-- A text that denotes a string is longer than that, by its quotes at least. -/
theorem Denotes.length_lt {text value : String} (denotes : Denotes text (.string value)) :
    value.length < text.length := by
  obtain ⟨before, raw, after, whole, _, _, written⟩ := denotes
  cases written with
  | scalar scalar =>
      cases scalar with
      | string inside =>
          have shorter := inside.length_le
          have length := congrArg List.length whole
          simp only [List.length_append, List.length_cons, String.length_toList] at length shorter
          omega

theorem not_denotes_itself (text : String) : ¬Denotes text (.string text) :=
  fun denotes => Nat.lt_irrefl _ denotes.length_lt

end WebviewHost.Json
