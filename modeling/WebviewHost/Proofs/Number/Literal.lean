import Mathlib.Algebra.Group.Int.Defs
import WebviewHost.Number.Literal

/-!
# Literals that read back

A number reads back if its text is a literal that denotes it. What follows the literal does not
matter as long as it does not continue it. Integers of 64 bits always read back; of a double this
has to be known, because literals are not read with the last bit exact.
-/

set_option autoImplicit false

namespace WebviewHost.Number

/-- A character that a literal may go on with. -/
def continues (c : Char) : Bool := (digit? c).isSome || c = '.' || c = 'e' || c = 'E'

/-- A text that does not continue the literal before it. -/
def Ends (rest : List Char) : Prop := ∀ c ∈ rest.head?, continues c = false

theorem ends_nil : Ends [] := by simp [Ends]

theorem ends_cons {c : Char} {rest : List Char} (stops : continues c = false) :
    Ends (c :: rest) := by
  simpa [Ends] using stops

/-- A number whose text is a literal that denotes it. -/
def ReadsBack (number : Number) : Prop :=
  ∃ literal : Literal, takeLiteral? number.text = some (literal, []) ∧ literal.number? = some number

/-- What has to be known of a number to read it back: for a double that it does so. -/
def Exact : Number → Prop
  | .integer _ => True
  | .double value => ReadsBack (.double value)

/-! ## What follows a literal -/

section Append

variable {text left rest : List Char}

theorem takeDigits_append (ends : Ends rest) (text : List Char) :
    takeDigits (text ++ rest) = ((takeDigits text).1, (takeDigits text).2 ++ rest) := by
  induction text with
  | nil =>
      cases rest with
      | nil => rfl
      | cons c after =>
          have stops : continues c = false := ends c rfl
          cases found : digit? c with
          | some digit => simp [continues, found] at stops
          | none => simp [takeDigits, found]
  | cons c text ih =>
      rw [List.cons_append, takeDigits, takeDigits]
      cases digit? c with
      | none => rfl
      | some digit => simp only [ih]

theorem takeFraction?_of_ne {c : Char} (noPoint : c ≠ '.') (text : List Char) :
    takeFraction? (c :: text) = some ([], c :: text) := by
  simp [takeFraction?, noPoint]

theorem takeFraction?_append (ends : Ends rest) {fraction : List Nat}
    (taken : takeFraction? text = some (fraction, left)) :
    takeFraction? (text ++ rest) = some (fraction, left ++ rest) := by
  cases text with
  | nil =>
      cases taken
      cases rest with
      | nil => rfl
      | cons c after =>
          have stops : continues c = false := ends c rfl
          exact takeFraction?_of_ne (fun point => by simp [continues, point] at stops) after
  | cons c text =>
      by_cases point : c = '.'
      · subst point
        simp only [List.cons_append, takeFraction?, takeDigits_append ends] at taken ⊢
        rcases digits : takeDigits text with ⟨_ | ⟨digit, more⟩, after⟩
        · simp [digits] at taken
        · simp only [digits, Option.some.injEq, Prod.mk.injEq] at taken ⊢
          exact ⟨taken.1, congrArg (· ++ rest) taken.2⟩
      · rw [takeFraction?_of_ne point] at taken
        cases taken
        exact takeFraction?_of_ne point (text ++ rest)

private theorem takeExponentDigits?_append (ends : Ends rest) {negative : Bool}
    {exponent : Option Int} (taken : takeExponentDigits? negative text = some (exponent, left)) :
    takeExponentDigits? negative (text ++ rest) = some (exponent, left ++ rest) := by
  simp only [takeExponentDigits?, takeDigits_append ends] at taken ⊢
  rcases digits : takeDigits text with ⟨_ | ⟨digit, more⟩, after⟩
  · simp [digits] at taken
  · simp only [digits, Option.some.injEq, Prod.mk.injEq] at taken ⊢
    exact ⟨taken.1, congrArg (· ++ rest) taken.2⟩

theorem takeExponent?_of_not_letter {c : Char} (other : ¬(c = 'e' ∨ c = 'E'))
    (text : List Char) : takeExponent? (c :: text) = some (none, c :: text) := by
  simp [takeExponent?, other]

theorem takeExponent?_of_letter {c : Char} (letter : c = 'e' ∨ c = 'E') (sign : Char)
    (text : List Char) :
    takeExponent? (c :: sign :: text) =
      if sign = '+' then takeExponentDigits? false text
      else if sign = '-' then takeExponentDigits? true text
      else takeExponentDigits? false (sign :: text) := by
  by_cases plus : sign = '+'
  · simp [takeExponent?, letter, plus]
  · by_cases minus : sign = '-'
    · simp [takeExponent?, letter, minus]
    · simp [takeExponent?, letter, plus, minus]

theorem takeExponent?_append (ends : Ends rest) {exponent : Option Int}
    (taken : takeExponent? text = some (exponent, left)) :
    takeExponent? (text ++ rest) = some (exponent, left ++ rest) := by
  cases text with
  | nil =>
      cases taken
      cases rest with
      | nil => rfl
      | cons c after =>
          have stops : continues c = false := ends c rfl
          refine takeExponent?_of_not_letter (fun letter => ?_) after
          rcases letter with same | same <;> simp [continues, same] at stops
  | cons c text =>
      by_cases letter : c = 'e' ∨ c = 'E'
      · cases text with
        | nil => simp [takeExponent?, letter, takeExponentDigits?, takeDigits] at taken
        | cons sign text =>
            rw [takeExponent?_of_letter letter] at taken
            rw [List.cons_append, List.cons_append, takeExponent?_of_letter letter]
            by_cases plus : sign = '+'
            · rw [if_pos plus] at taken ⊢
              exact takeExponentDigits?_append ends taken
            · rw [if_neg plus] at taken ⊢
              by_cases minus : sign = '-'
              · rw [if_pos minus] at taken ⊢
                exact takeExponentDigits?_append ends taken
              · rw [if_neg minus] at taken ⊢
                exact takeExponentDigits?_append ends taken
      · rw [takeExponent?_of_not_letter letter] at taken
        cases taken
        exact takeExponent?_of_not_letter letter (text ++ rest)

/-- Digits that may stand before the point: at least one, and no other behind a zero. -/
def standAlone : List Nat → Bool
  | [] | 0 :: _ :: _ => false
  | _ => true

theorem takeUnsigned?_eq (negative : Bool) (text : List Char) :
    takeUnsigned? negative text =
      if standAlone (takeDigits text).1 then do
        let (fraction, rest) ← takeFraction? (takeDigits text).2
        let (exponent, rest) ← takeExponent? rest
        return (⟨negative, (takeDigits text).1, fraction, exponent⟩, rest)
      else none := by
  unfold takeUnsigned?
  rcases takeDigits text with ⟨_ | ⟨_ | digit, _ | ⟨next, more⟩⟩, after⟩ <;> rfl

theorem takeUnsigned?_append (ends : Ends rest) {negative : Bool} {literal : Literal}
    (taken : takeUnsigned? negative text = some (literal, left)) :
    takeUnsigned? negative (text ++ rest) = some (literal, left ++ rest) := by
  rw [takeUnsigned?_eq] at taken ⊢
  rw [takeDigits_append ends]
  split at taken
  · rename_i alone
    obtain ⟨⟨fraction, afterFraction⟩, hasFraction, taken⟩ := Option.bind_eq_some_iff.mp taken
    obtain ⟨⟨exponent, afterExponent⟩, hasExponent, taken⟩ := Option.bind_eq_some_iff.mp taken
    cases taken
    rw [if_pos alone, takeFraction?_append ends hasFraction]
    simp only [Option.bind_eq_bind, Option.bind_some, takeExponent?_append ends hasExponent]
    rfl
  · cases taken

theorem takeLiteral?_of_ne {c : Char} (unsigned : c ≠ '-') (text : List Char) :
    takeLiteral? (c :: text) = takeUnsigned? false (c :: text) := by
  simp [takeLiteral?, unsigned]

/-- A literal ends where it ends, whatever follows. -/
theorem takeLiteral?_append (ends : Ends rest) {literal : Literal}
    (taken : takeLiteral? text = some (literal, left)) :
    takeLiteral? (text ++ rest) = some (literal, left ++ rest) := by
  cases text with
  | nil => cases taken
  | cons c text =>
      by_cases minus : c = '-'
      · subst minus
        exact takeUnsigned?_append ends taken
      · rw [takeLiteral?_of_ne minus] at taken
        rw [List.cons_append, takeLiteral?_of_ne minus]
        exact takeUnsigned?_append ends taken

theorem head_of_takeLiteral? {c : Char} {literal : Literal}
    (taken : takeLiteral? (c :: text) = some (literal, left)) : c = '-' ∨ (digit? c).isSome := by
  by_cases minus : c = '-'
  · exact .inl minus
  · rw [takeLiteral?_of_ne minus, takeUnsigned?_eq, takeDigits] at taken
    cases found : digit? c with
    | some digit => exact .inr rfl
    | none => simp [found, standAlone] at taken

end Append

/-! ## Integers -/

theorem digit?_digitChar {digit : Nat} (small : digit < 10) :
    digit? digit.digitChar = some digit := by
  have every : ∀ digit : Fin 10, digit? (Nat.digitChar digit) = some digit.val := by decide
  exact every ⟨digit, small⟩

theorem takeDigits_map_digitChar {digits : List Nat} (small : ∀ digit ∈ digits, digit < 10) :
    takeDigits (digits.map Nat.digitChar) = (digits, []) := by
  induction digits with
  | nil => rfl
  | cons digit rest ih =>
      obtain ⟨first, others⟩ := List.forall_mem_cons.mp small
      rw [List.map_cons, takeDigits, digit?_digitChar first, ih others]

theorem exists_digits (n : Nat) :
    ∃ digits : List Nat, decimalDigits n = digits.map Nat.digitChar ∧
      (∀ digit ∈ digits, digit < 10) ∧ ofDigits digits = n ∧ standAlone digits = true ∧
        (0 < n → digits.head? ≠ some 0) := by
  induction n using Nat.strongRecOn with
  | _ n ih =>
      by_cases single : n < 10
      · refine ⟨[n], Nat.toDigits_of_lt_base single, by simpa using single, by simp [ofDigits], ?_,
          fun positive => by simpa using Nat.ne_of_gt positive⟩
        cases n <;> rfl
      · obtain ⟨digits, text, small, value, alone, head⟩ := ih (n / 10) (by omega)
        have positive : 0 < n / 10 := by omega
        refine ⟨digits ++ [n % 10], ?_, ?_, ?_, ?_, ?_⟩
        · unfold decimalDigits at text ⊢
          rw [Nat.toDigits_of_base_le (by omega) (by omega), text, List.map_append]
          rfl
        · intro digit member
          rcases List.mem_append.mp member with front | last
          · exact small digit front
          · rw [List.mem_singleton.mp last]
            exact Nat.mod_lt n (by omega)
        · unfold ofDigits at value ⊢
          rw [List.foldl_append, value]
          simp only [List.foldl_cons, List.foldl_nil]
          omega
        · rcases digits with _ | ⟨_ | first, more⟩
          · cases alone
          · exact absurd rfl (head positive)
          · rfl
        · intro _
          rcases digits with _ | ⟨first, more⟩
          · cases alone
          · exact head positive

theorem takeUnsigned?_decimalDigits (negative : Bool) (n : Nat) :
    ∃ whole, takeUnsigned? negative (decimalDigits n) = some (⟨negative, whole, [], none⟩, []) ∧
      ofDigits whole = n := by
  obtain ⟨digits, text, small, value, alone, _⟩ := exists_digits n
  refine ⟨digits, ?_, value⟩
  rw [takeUnsigned?_eq, text, takeDigits_map_digitChar small, if_pos alone]
  rfl

theorem takeLiteral?_decimalDigits (n : Nat) :
    takeLiteral? (decimalDigits n) = takeUnsigned? false (decimalDigits n) := by
  obtain ⟨digits, text, small, _, alone, _⟩ := exists_digits n
  cases digits with
  | nil => cases alone
  | cons digit rest =>
      rw [text]
      refine takeLiteral?_of_ne (fun minus => ?_) _
      have found := digit?_digitChar (small digit (by simp))
      rw [minus] at found
      cases found

theorem readsBack_integer {value : Int} (lower : -(2 ^ 63 : Int) ≤ value) (upper : value < 2 ^ 64) :
    ReadsBack (.integer value) := by
  cases value with
  | ofNat n =>
      obtain ⟨whole, taken, same⟩ := takeUnsigned?_decimalDigits false n
      refine ⟨⟨false, whole, [], none⟩, (takeLiteral?_decimalDigits n).trans taken, ?_⟩
      have fits : n < Nat.pow 2 64 := Int.ofNat_lt.mp upper
      simp [Literal.number?, same, fits]
  | negSucc n =>
      obtain ⟨whole, taken, same⟩ := takeUnsigned?_decimalDigits true (n + 1)
      refine ⟨⟨true, whole, [], none⟩, taken, ?_⟩
      have fits : n + 1 ≤ Nat.pow 2 63 := by
        simp only [Nat.pow_eq]
        omega
      have denoted : -((n + 1 : Nat) : Int) = .negSucc n := rfl
      simp only [Literal.number?, same, List.isEmpty_nil, Option.isNone_none, Bool.and_true,
        Bool.not_true, Bool.and_false, Bool.false_and, Bool.false_eq_true, if_false, fits, denoted,
        Nat.zero_lt_succ, decide_true, if_true]

end WebviewHost.Number
