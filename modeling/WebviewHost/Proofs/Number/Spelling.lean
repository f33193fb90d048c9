import WebviewHost.Proofs.Number.Literal

/-!
# How literals are written

The literals that are read are those of the grammar: an optional sign, digits of which a leading
zero stands alone, and perhaps a fraction and an exponent, each with a digit at least.
-/

set_option autoImplicit false

namespace WebviewHost.Number

/-! ## Grammar -/

/-- Characters that are digits, and what each of them counts. -/
def DigitsText (raw : List Char) (digits : List Nat) : Prop := raw.map digit? = digits.map some

inductive FractionText : List Char → List Nat → Prop where
  | absent : FractionText [] []
  | present {raw : List Char} {digits : List Nat} : DigitsText raw digits → digits ≠ [] →
      FractionText ('.' :: raw) digits

inductive ExponentText : List Char → Option Int → Prop where
  | absent : ExponentText [] none
  | unsigned {letter : Char} {raw : List Char} {digits : List Nat} :
      letter = 'e' ∨ letter = 'E' → DigitsText raw digits → digits ≠ [] →
      ExponentText (letter :: raw) (some (ofDigits digits))
  | positive {letter : Char} {raw : List Char} {digits : List Nat} :
      letter = 'e' ∨ letter = 'E' → DigitsText raw digits → digits ≠ [] →
      ExponentText (letter :: '+' :: raw) (some (ofDigits digits))
  | negative {letter : Char} {raw : List Char} {digits : List Nat} :
      letter = 'e' ∨ letter = 'E' → DigitsText raw digits → digits ≠ [] →
      ExponentText (letter :: '-' :: raw) (some (-ofDigits digits))

inductive UnsignedText (negative : Bool) : List Char → Literal → Prop where
  | parts {rawWhole rawFraction rawExponent : List Char} {whole fraction : List Nat}
      {exponent : Option Int} : DigitsText rawWhole whole → standAlone whole = true →
      FractionText rawFraction fraction → ExponentText rawExponent exponent →
      UnsignedText negative (rawWhole ++ (rawFraction ++ rawExponent))
        ⟨negative, whole, fraction, exponent⟩

inductive LiteralText : List Char → Literal → Prop where
  | unsigned {raw : List Char} {literal : Literal} : UnsignedText false raw literal →
      LiteralText raw literal
  | negative {raw : List Char} {literal : Literal} : UnsignedText true raw literal →
      LiteralText ('-' :: raw) literal

/-! ## What is taken is written so -/

section Sound

variable {text rest : List Char}

theorem digitsText_of_take {digits : List Nat} (taken : takeDigits text = (digits, rest)) :
    ∃ raw, text = raw ++ rest ∧ DigitsText raw digits := by
  induction text generalizing digits with
  | nil =>
      cases taken
      exact ⟨[], rfl, rfl⟩
  | cons c text ih =>
      rw [takeDigits] at taken
      cases found : digit? c with
      | none =>
          rw [found] at taken
          cases taken
          exact ⟨[], rfl, rfl⟩
      | some digit =>
          rw [found] at taken
          cases taken
          obtain ⟨raw, whole, digits⟩ := ih rfl
          refine ⟨c :: raw, congrArg (c :: ·) whole, ?_⟩
          unfold DigitsText
          rw [List.map_cons, found, digits]
          rfl

theorem fractionText_of_take {fraction : List Nat}
    (taken : takeFraction? text = some (fraction, rest)) :
    ∃ raw, text = raw ++ rest ∧ FractionText raw fraction := by
  unfold takeFraction? at taken
  split at taken
  next after =>
    rcases found : takeDigits after with ⟨_ | ⟨digit, more⟩, last⟩
    · rw [found] at taken
      cases taken
    · rw [found] at taken
      cases taken
      obtain ⟨raw, whole, digits⟩ := digitsText_of_take found
      exact ⟨'.' :: raw, congrArg ('.' :: ·) whole, .present digits (List.cons_ne_nil digit more)⟩
  next =>
    cases taken
    exact ⟨[], rfl, .absent⟩

theorem digitsText_of_takeExponentDigits? {negative : Bool} {exponent : Option Int}
    (taken : takeExponentDigits? negative text = some (exponent, rest)) :
    ∃ raw digits, text = raw ++ rest ∧ DigitsText raw digits ∧ digits ≠ [] ∧
      exponent = some (if negative then -(ofDigits digits : Int) else ofDigits digits) := by
  unfold takeExponentDigits? at taken
  rcases found : takeDigits text with ⟨_ | ⟨digit, more⟩, last⟩
  · rw [found] at taken
    cases taken
  · rw [found] at taken
    cases taken
    obtain ⟨raw, whole, digits⟩ := digitsText_of_take found
    exact ⟨raw, digit :: more, whole, digits, List.cons_ne_nil digit more, rfl⟩

theorem exponentText_of_take {exponent : Option Int}
    (taken : takeExponent? text = some (exponent, rest)) :
    ∃ raw, text = raw ++ rest ∧ ExponentText raw exponent := by
  unfold takeExponent? at taken
  split at taken
  next =>
    cases taken
    exact ⟨[], rfl, .absent⟩
  next letter after =>
    split at taken
    next isLetter =>
      have named : letter = 'e' ∨ letter = 'E' := by simpa using isLetter
      split at taken
      next after =>
        obtain ⟨raw, digits, rfl, written, nonempty, rfl⟩ := digitsText_of_takeExponentDigits? taken
        exact ⟨letter :: '+' :: raw, rfl, .positive named written nonempty⟩
      next after =>
        obtain ⟨raw, digits, rfl, written, nonempty, rfl⟩ := digitsText_of_takeExponentDigits? taken
        exact ⟨letter :: '-' :: raw, rfl, .negative named written nonempty⟩
      next after =>
        obtain ⟨raw, digits, rfl, written, nonempty, rfl⟩ := digitsText_of_takeExponentDigits? taken
        exact ⟨letter :: raw, rfl, .unsigned named written nonempty⟩
    next =>
      cases taken
      exact ⟨[], rfl, .absent⟩

theorem unsignedText_of_take {negative : Bool} {literal : Literal}
    (taken : takeUnsigned? negative text = some (literal, rest)) :
    ∃ raw, text = raw ++ rest ∧ UnsignedText negative raw literal := by
  rw [takeUnsigned?_eq] at taken
  split at taken
  next alone =>
    obtain ⟨⟨fraction, afterFraction⟩, hasFraction, taken⟩ := Option.bind_eq_some_iff.mp taken
    obtain ⟨⟨exponent, afterExponent⟩, hasExponent, taken⟩ := Option.bind_eq_some_iff.mp taken
    cases taken
    obtain ⟨rawWhole, whole, digits⟩ := digitsText_of_take (rfl : takeDigits text = (_, _))
    obtain ⟨rawFraction, split, fractionText⟩ := fractionText_of_take hasFraction
    obtain ⟨rawExponent, splitLast, exponentText⟩ := exponentText_of_take hasExponent
    refine ⟨rawWhole ++ (rawFraction ++ rawExponent), ?_,
      .parts digits alone fractionText exponentText⟩
    rw [List.append_assoc, List.append_assoc, ← splitLast, ← split]
    exact whole
  next => cases taken

/-- What is taken for a literal is written as one. -/
theorem literalText_of_take {literal : Literal}
    (taken : takeLiteral? text = some (literal, rest)) :
    ∃ raw, text = raw ++ rest ∧ LiteralText raw literal := by
  unfold takeLiteral? at taken
  split at taken
  next after =>
    obtain ⟨raw, rfl, unsigned⟩ := unsignedText_of_take taken
    exact ⟨'-' :: raw, rfl, .negative unsigned⟩
  next =>
    obtain ⟨raw, rfl, unsigned⟩ := unsignedText_of_take taken
    exact ⟨raw, rfl, .unsigned unsigned⟩

end Sound

/-! ## What is written so is taken -/

section Complete

variable {raw rest : List Char} {digits : List Nat}

/-- No digit comes next. -/
def Stops (rest : List Char) : Prop := ∀ c ∈ rest.head?, digit? c = none

theorem takeDigits_of_text (text : DigitsText raw digits) (stops : Stops rest) :
    takeDigits (raw ++ rest) = (digits, rest) := by
  induction raw generalizing digits with
  | nil =>
      cases digits with
      | cons digit more => cases text
      | nil =>
          cases rest with
          | nil => rfl
          | cons c after =>
              have found : digit? c = none := stops c rfl
              rw [List.nil_append, takeDigits, found]
  | cons c raw ih =>
      cases digits with
      | nil => cases text
      | cons digit more =>
          obtain ⟨found, others⟩ := List.cons.inj text
          rw [List.cons_append, takeDigits, found, ih others]

theorem letter_of_exponent {exponent : Option Int} (text : ExponentText raw exponent) :
    ∀ c ∈ raw.head?, c = 'e' ∨ c = 'E' := by
  intro c head
  cases text with
  | absent => cases head
  | unsigned letter _ _ => cases head; exact letter
  | positive letter _ _ => cases head; exact letter
  | negative letter _ _ => cases head; exact letter

theorem stops_exponent {exponent : Option Int} (text : ExponentText raw exponent) : Stops raw := by
  intro c head
  rcases letter_of_exponent text c head with rfl | rfl <;> decide

theorem stops_fraction {fraction : List Nat} (text : FractionText raw fraction)
    (stops : Stops rest) : Stops (raw ++ rest) := by
  cases text with
  | absent => exact stops
  | present _ _ =>
      rintro c ⟨⟩
      decide

theorem takeExponentDigits?_of_text (negative : Bool) (text : DigitsText raw digits)
    (nonempty : digits ≠ []) :
    takeExponentDigits? negative raw =
      some (some (if negative then -(ofDigits digits : Int) else ofDigits digits), []) := by
  have stops : Stops [] := fun c head => by cases head
  have taken := takeDigits_of_text text stops
  rw [List.append_nil] at taken
  obtain ⟨digit, more, rfl⟩ := List.exists_cons_of_ne_nil nonempty
  simp only [takeExponentDigits?, taken]

theorem takeExponent?_of_text {exponent : Option Int} (text : ExponentText raw exponent) :
    takeExponent? raw = some (exponent, []) := by
  cases text with
  | absent => rfl
  | positive letter digits nonempty =>
      rw [takeExponent?_of_letter letter, if_pos rfl]
      exact takeExponentDigits?_of_text false digits nonempty
  | negative letter digits nonempty =>
      rw [takeExponent?_of_letter letter, if_neg (by decide), if_pos rfl]
      exact takeExponentDigits?_of_text true digits nonempty
  | @unsigned letter raw digits named written nonempty =>
      obtain ⟨digit, more, rfl⟩ := List.exists_cons_of_ne_nil nonempty
      cases raw with
      | nil => cases written
      | cons c raw =>
          have found : digit? c = some digit := (List.cons.inj written).1
          have noPlus : c ≠ '+' := fun same => by rw [same] at found; cases found
          have noMinus : c ≠ '-' := fun same => by rw [same] at found; cases found
          rw [takeExponent?_of_letter named, if_neg noPlus, if_neg noMinus]
          exact takeExponentDigits?_of_text false written nonempty

theorem takeFraction?_of_text {fraction : List Nat} (text : FractionText raw fraction)
    {exponent : Option Int} (written : ExponentText rest exponent) :
    takeFraction? (raw ++ rest) = some (fraction, rest) := by
  cases text with
  | absent =>
      cases rest with
      | nil => rfl
      | cons c after =>
          refine takeFraction?_of_ne (fun point => ?_) after
          rcases letter_of_exponent written c rfl with same | same <;> cases point.symm.trans same
  | present digits nonempty =>
      obtain ⟨digit, more, rfl⟩ := List.exists_cons_of_ne_nil nonempty
      have taken := takeDigits_of_text digits (stops_exponent written)
      simp only [List.cons_append, takeFraction?, taken]

theorem takeUnsigned?_of_text {negative : Bool} {literal : Literal}
    (text : UnsignedText negative raw literal) :
    takeUnsigned? negative raw = some (literal, []) := by
  obtain ⟨digits, alone, fraction, exponent⟩ := text
  have taken := takeDigits_of_text digits (stops_fraction fraction (stops_exponent exponent))
  rw [takeUnsigned?_eq, taken, if_pos alone, takeFraction?_of_text fraction exponent]
  simp only [Option.bind_eq_bind, Option.bind_some, takeExponent?_of_text exponent]
  rfl

theorem takeLiteral?_of_text {literal : Literal} (text : LiteralText raw literal) :
    takeLiteral? raw = some (literal, []) := by
  cases text with
  | negative unsigned => exact takeUnsigned?_of_text unsigned
  | unsigned unsigned =>
      have taken := takeUnsigned?_of_text unsigned
      cases raw with
      | nil => cases taken
      | cons c raw =>
          have noMinus : c ≠ '-' := by
            rintro rfl
            cases taken
          rw [takeLiteral?_of_ne noMinus]
          exact taken

end Complete

/-- The literals that are read are those of the grammar. -/
theorem takeLiteral?_eq_some_iff {raw : List Char} {literal : Literal} :
    takeLiteral? raw = some (literal, []) ↔ LiteralText raw literal := by
  constructor
  · intro taken
    obtain ⟨own, whole, text⟩ := literalText_of_take taken
    rw [List.append_nil] at whole
    exact whole ▸ text
  · exact takeLiteral?_of_text

end WebviewHost.Number
