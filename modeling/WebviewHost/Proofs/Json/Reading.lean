import WebviewHost.Proofs.Json.Written
import WebviewHost.Proofs.Text.Utf8

/-!
# What is written so is read

Whatever the grammar derives is read, up to its end and no further. So the texts that are read are
those that denote something, and what is read is what they denote.
-/

set_option autoImplicit false

namespace WebviewHost.Json

open WebviewHost.Number (Ends takeLiteral?_append takeLiteral?_of_text)
open WebviewHost.Text (fromUTF8?_eq_some_iff)

/-! ## Strings -/

theorem takeString?_of_charText {piece : List Char} {c : Char} (text : CharText piece c)
    (rest : List Char) :
    takeString? (piece ++ rest) =
      (takeString? rest).map fun (text, rest) => (c :: text, rest) := by
  cases text with
  | plain noQuote noEscape printed =>
      have shown : ¬c.toNat < 0x20 := Nat.not_lt.mpr printed
      simp [takeString?, noEscape, shown]
  | escape meaning =>
      unfold simpleEscape? at meaning
      split at meaning <;> cases meaning <;> simp [takeString?, simpleEscape?]
  | unit digits notHigh notLow => simp [takeString?, digits, notHigh, notLow]
  | pair highDigits high lowDigits low => simp [takeString?, highDigits, high, lowDigits, low]

theorem takeString?_of_text {raw text : List Char} (written : StringText raw text)
    (rest : List Char) : takeString? (raw ++ '"' :: rest) = some (text, rest) := by
  induction written with
  | nil => rfl
  | cons first _ ih =>
      rw [List.append_assoc, takeString?_of_charText first, ih]
      rfl

/-! ## Blanks and heads -/

theorem skipBlanks_of_not_blank {c : Char} (solid : isBlank c = false) (text : List Char) :
    skipBlanks (c :: text) = c :: text := by
  simp [skipBlanks, solid]

theorem takeValue?_of_scalar {c : Char} (noArray : c ≠ '[') (noObject : c ≠ '\x7b')
    (fuel allowance : Nat) (text : List Char) :
    takeValue? (fuel + 1) allowance (c :: text) = takeScalar? (c :: text) := by
  simp [takeValue?, noArray, noObject]

theorem ne_of_begins {c other : Char} (begins : c = '-' ∨ (Number.digit? c).isSome)
    (different : (other = '-' || (Number.digit? other).isSome) = false) : c ≠ other := by
  rintro rfl
  rcases begins with minus | digit
  · simp [minus] at different
  · simp [digit] at different

theorem isBlank_of_begins {c : Char} (begins : c = '-' ∨ (Number.digit? c).isSome) :
    isBlank c = false := by
  have noSpace : c ≠ ' ' := ne_of_begins begins (by decide)
  have noBreak : c ≠ '\n' := ne_of_begins begins (by decide)
  have noTab : c ≠ '\t' := ne_of_begins begins (by decide)
  have noReturn : c ≠ '\r' := ne_of_begins begins (by decide)
  simp [isBlank, noSpace, noBreak, noTab, noReturn]

theorem takeScalar?_of_literal {c : Char} (begins : c = '-' ∨ (Number.digit? c).isSome)
    (text : List Char) :
    takeScalar? (c :: text) = do
      let (literal, rest) ← Number.takeLiteral? (c :: text)
      let number ← literal.number?
      return (.number number, rest) := by
  have noQuote : c ≠ '"' := ne_of_begins begins (by decide)
  have noNull : c ≠ 'n' := ne_of_begins begins (by decide)
  have noTrue : c ≠ 't' := ne_of_begins begins (by decide)
  have noFalse : c ≠ 'f' := ne_of_begins begins (by decide)
  simp [takeScalar?, noQuote, noNull, noTrue, noFalse]

/-! ## Scalars -/

section Values

variable {raw rest text : List Char} {allowance fuel : Nat} {value : Json}

theorem skipBlanks_append {gap : List Char} (blank : Blank gap) (text : List Char) :
    skipBlanks (gap ++ text) = skipBlanks text :=
  List.dropWhile_append_of_pos blank

theorem continues_of_isBlank {c : Char} (blank : isBlank c = true) :
    Number.continues c = false := by
  simp only [isBlank, Bool.or_eq_true, decide_eq_true_eq] at blank
  rcases blank with ((rfl | rfl) | rfl) | rfl <;> decide

theorem ends_of_blank {gap : List Char} (blank : Blank gap) (ends : Ends rest) :
    Ends (gap ++ rest) := by
  cases gap with
  | nil => exact ends
  | cons c gap => exact Number.ends_cons (continues_of_isBlank (blank c List.mem_cons_self))

/-- A value that holds no others begins with a character that is no blank, no bracket and no
brace. -/
theorem ScalarText.head (written : ScalarText raw value) :
    ∃ c tail, raw = c :: tail ∧ isBlank c = false ∧ c ≠ ']' ∧ c ≠ '[' ∧ c ≠ '\x7b' := by
  cases written with
  | null => exact ⟨_, _, rfl, by decide, by decide, by decide, by decide⟩
  | bool value => cases value <;> exact ⟨_, _, rfl, by decide, by decide, by decide, by decide⟩
  | string written => exact ⟨_, _, rfl, by decide, by decide, by decide, by decide⟩
  | number literal denoted =>
      have taken := takeLiteral?_of_text literal
      cases raw with
      | nil => cases taken
      | cons c tail =>
          have begins := Number.head_of_takeLiteral? taken
          exact ⟨c, tail, rfl, isBlank_of_begins begins, ne_of_begins begins (by decide),
            ne_of_begins begins (by decide), ne_of_begins begins (by decide)⟩

theorem takeScalar?_of_text (written : ScalarText raw value) (ends : Ends rest) :
    takeScalar? (raw ++ rest) = some (value, rest) := by
  cases written with
  | null => rfl
  | bool value => cases value <;> rfl
  | @string raw value written =>
      have taken := takeString?_of_text written rest
      simp only [List.cons_append, List.append_assoc, List.nil_append, takeScalar?, taken,
        Option.map_some, String.ofList_toList]
  | number literal denoted =>
      have taken := takeLiteral?_append ends (takeLiteral?_of_text literal)
      cases raw with
      | nil => cases takeLiteral?_of_text literal
      | cons c tail =>
          have begins := Number.head_of_takeLiteral? (takeLiteral?_of_text literal)
          rw [List.nil_append, List.cons_append] at taken
          rw [List.cons_append, takeScalar?_of_literal begins, taken]
          simp only [Option.bind_eq_bind, Option.bind_some, denoted]
          rfl

theorem ValueText.head (written : ValueText allowance raw value) :
    ∃ c tail, raw = c :: tail ∧ isBlank c = false ∧ c ≠ ']' := by
  cases written with
  | scalar written =>
      obtain ⟨c, tail, whole, solid, notClosed, _⟩ := written.head
      exact ⟨c, tail, whole, solid, notClosed⟩
  | emptyArray => exact ⟨_, _, rfl, by decide, by decide⟩
  | array => exact ⟨_, _, rfl, by decide, by decide⟩
  | emptyObject => exact ⟨_, _, rfl, by decide, by decide⟩
  | object => exact ⟨_, _, rfl, by decide, by decide⟩

/-! ## Items and members -/

theorem ValueText.skipBlanks_append (written : ValueText allowance raw value) {gap : List Char}
    (blank : Blank gap) (rest : List Char) : skipBlanks (gap ++ (raw ++ rest)) = raw ++ rest := by
  obtain ⟨c, tail, rfl, solid, _⟩ := written.head
  rw [Json.skipBlanks_append blank, List.cons_append, skipBlanks_of_not_blank solid]

/-- A value reads back with fuel for each of its characters, whatever follows. -/
def ReadsFrom (allowance : Nat) (raw : List Char) (value : Json) : Prop :=
  ∀ fuel rest, raw.length ≤ fuel → Ends rest →
    takeValue? fuel allowance (raw ++ rest) = some (value, rest)

theorem readsFrom_scalar (written : ScalarText raw value) : ReadsFrom allowance raw value := by
  intro fuel rest enough ends
  obtain ⟨c, tail, rfl, solid, _, noArray, noObject⟩ := written.head
  cases fuel with
  | zero => cases enough
  | succ fuel =>
      rw [List.cons_append, takeValue?_of_scalar noArray noObject]
      exact takeScalar?_of_text written ends

section Items

variable {item : Item} (padded : item.Padded)
  (written : ValueText allowance item.raw item.value)
  (reads : ReadsFrom allowance item.raw item.value) (enough : item.text.length ≤ fuel)

include padded written reads enough

theorem takeValue?_item (ends : Ends rest) :
    takeValue? fuel allowance (skipBlanks (item.text ++ rest)) =
      some (item.value, item.after ++ rest) := by
  have inside : item.raw.length ≤ fuel := by
    simp only [Item.text, List.length_append] at enough
    omega
  unfold Item.text
  rw [List.append_assoc, List.append_assoc, written.skipBlanks_append padded.before]
  exact reads fuel _ inside (ends_of_blank padded.after ends)

theorem takeItems?_last (rest : List Char) :
    takeItems? (fuel + 1) allowance (skipBlanks (item.text ++ ']' :: rest)) =
      some ([item.value], rest) := by
  rw [takeItems?, takeValue?_item padded written reads enough (Number.ends_cons (by decide))]
  simp (disch := decide) only [skipBlanks_append padded.after, skipBlanks_of_not_blank]

theorem takeItems?_cons (rest : List Char) :
    takeItems? (fuel + 1) allowance (skipBlanks (item.text ++ ',' :: rest)) =
      (takeItems? fuel allowance (skipBlanks rest)).map fun (items, rest) =>
        (item.value :: items, rest) := by
  rw [takeItems?, takeValue?_item padded written reads enough (Number.ends_cons (by decide))]
  simp (disch := decide) only [skipBlanks_append padded.after, skipBlanks_of_not_blank]

end Items

theorem takeItems?_of_text {items : List Item} (nonempty : items ≠ [])
    (padded : ∀ item ∈ items, item.Padded)
    (each : ∀ item ∈ items, ValueText allowance item.raw item.value)
    (reads : ∀ item ∈ items, ReadsFrom allowance item.raw item.value)
    (enough : ([','].intercalate (items.map Item.text)).length < fuel) (rest : List Char) :
    takeItems? fuel allowance
        (skipBlanks ([','].intercalate (items.map Item.text) ++ ']' :: rest)) =
      some (items.map Item.value, rest) := by
  induction items generalizing fuel with
  | nil => exact absurd rfl nonempty
  | cons item more ih =>
      obtain ⟨paddedFirst, paddedMore⟩ := List.forall_mem_cons.mp padded
      obtain ⟨first, eachMore⟩ := List.forall_mem_cons.mp each
      obtain ⟨readsFirst, readsMore⟩ := List.forall_mem_cons.mp reads
      obtain ⟨fuel, rfl⟩ := Nat.exists_eq_add_one_of_ne_zero (Nat.ne_zero_of_lt enough)
      cases more with
      | nil =>
          rw [List.map_singleton, List.intercalate_singleton] at enough ⊢
          exact takeItems?_last paddedFirst first readsFirst (Nat.le_of_lt_succ enough) rest
      | cons next more =>
          rw [intercalate_map_cons Item.text item (List.cons_ne_nil next more)] at enough ⊢
          simp only [List.length_append, List.length_cons] at enough
          rw [List.append_assoc, List.cons_append,
            takeItems?_cons paddedFirst first readsFirst (by omega),
            ih (List.cons_ne_nil next more) paddedMore eachMore readsMore (show _ < fuel by omega)]
          rfl

theorem Entry.length_item_le (entry : Entry) : entry.item.text.length ≤ entry.text.length := by
  simp only [Entry.text, List.length_append, List.length_cons]
  omega

section Entries

variable {entry : Entry} (padded : entry.Padded)
  (written : ValueText allowance entry.item.raw entry.item.value)
  (reads : ReadsFrom allowance entry.item.raw entry.item.value) (enough : entry.text.length ≤ fuel)

include padded

theorem Entry.skipBlanks_text (rest : List Char) :
    skipBlanks (entry.text ++ rest) =
      '"' :: (entry.rawName ++ '"' :: (entry.gap ++ ':' :: (entry.item.text ++ rest))) := by
  unfold Entry.text
  simp only [List.append_assoc, List.cons_append]
  rw [skipBlanks_append padded.before, skipBlanks_of_not_blank (by decide)]

include written reads enough

theorem takeMembers?_last (rest : List Char) :
    takeMembers? (fuel + 1) allowance (skipBlanks (entry.text ++ '\x7d' :: rest)) =
      some ([entry.member], rest) := by
  have inside := Nat.le_trans entry.length_item_le enough
  rw [Entry.skipBlanks_text padded, takeMembers?, takeString?_of_text padded.name]
  have ends : Ends ('\x7d' :: rest) := Number.ends_cons (by decide)
  simp (disch := decide) only [skipBlanks_append padded.gap, skipBlanks_of_not_blank,
    takeValue?_item padded.item written reads inside ends, skipBlanks_append padded.item.after]
  rw [String.ofList_toList]
  rfl

theorem takeMembers?_cons (rest : List Char) :
    takeMembers? (fuel + 1) allowance (skipBlanks (entry.text ++ ',' :: rest)) =
      (takeMembers? fuel allowance (skipBlanks rest)).map fun (members, rest) =>
        (entry.member :: members, rest) := by
  have inside := Nat.le_trans entry.length_item_le enough
  rw [Entry.skipBlanks_text padded, takeMembers?, takeString?_of_text padded.name]
  have ends : Ends (',' :: rest) := Number.ends_cons (by decide)
  simp (disch := decide) only [skipBlanks_append padded.gap, skipBlanks_of_not_blank,
    takeValue?_item padded.item written reads inside ends, skipBlanks_append padded.item.after]
  rw [String.ofList_toList]
  rfl

end Entries

theorem takeMembers?_of_text {entries : List Entry} (nonempty : entries ≠ [])
    (padded : ∀ entry ∈ entries, entry.Padded)
    (each : ∀ entry ∈ entries, ValueText allowance entry.item.raw entry.item.value)
    (reads : ∀ entry ∈ entries, ReadsFrom allowance entry.item.raw entry.item.value)
    (enough : ([','].intercalate (entries.map Entry.text)).length < fuel) (rest : List Char) :
    takeMembers? fuel allowance
        (skipBlanks ([','].intercalate (entries.map Entry.text) ++ '\x7d' :: rest)) =
      some (entries.map Entry.member, rest) := by
  induction entries generalizing fuel with
  | nil => exact absurd rfl nonempty
  | cons entry more ih =>
      obtain ⟨paddedFirst, paddedMore⟩ := List.forall_mem_cons.mp padded
      obtain ⟨first, eachMore⟩ := List.forall_mem_cons.mp each
      obtain ⟨readsFirst, readsMore⟩ := List.forall_mem_cons.mp reads
      obtain ⟨fuel, rfl⟩ := Nat.exists_eq_add_one_of_ne_zero (Nat.ne_zero_of_lt enough)
      cases more with
      | nil =>
          rw [List.map_singleton, List.intercalate_singleton] at enough ⊢
          exact takeMembers?_last paddedFirst first readsFirst (Nat.le_of_lt_succ enough) rest
      | cons next more =>
          rw [intercalate_map_cons Entry.text entry (List.cons_ne_nil next more)] at enough ⊢
          simp only [List.length_append, List.length_cons] at enough
          rw [List.append_assoc, List.cons_append,
            takeMembers?_cons paddedFirst first readsFirst (by omega),
            ih (List.cons_ne_nil next more) paddedMore eachMore readsMore (show _ < fuel by omega)]
          rfl

/-! ## Values -/

theorem exists_intercalate_cons (first : List Char) (others : List (List Char)) :
    ∃ more, [','].intercalate (first :: others) = first ++ more := by
  cases others with
  | nil => exact ⟨[], by simp⟩
  | cons next others => exact ⟨_, by rw [List.intercalate_cons_cons, List.append_assoc]⟩

theorem takeValue?_array {c : Char} {text inner : List Char}
    (begins : skipBlanks text = c :: inner) (notClosed : c ≠ ']') (fuel allowance : Nat) :
    takeValue? (fuel + 1) (allowance + 1) ('[' :: text) =
      (takeItems? fuel allowance (skipBlanks text)).map
        fun (items, rest) => (.array items, rest) := by
  simp [takeValue?, begins, notClosed]

theorem takeValue?_object {c : Char} {text inner : List Char}
    (begins : skipBlanks text = c :: inner) (notClosed : c ≠ '\x7d') (fuel allowance : Nat) :
    takeValue? (fuel + 1) (allowance + 1) ('\x7b' :: text) =
      (takeMembers? fuel allowance (skipBlanks text)).map
        fun (members, rest) => (.object (Members.ofList members), rest) := by
  simp [takeValue?, begins, notClosed]

theorem readsFrom_array {items : List Item} (nonempty : items ≠ [])
    (padded : ∀ item ∈ items, item.Padded)
    (each : ∀ item ∈ items, ValueText allowance item.raw item.value)
    (reads : ∀ item ∈ items, ReadsFrom allowance item.raw item.value) :
    ReadsFrom (allowance + 1) ('[' :: [','].intercalate (items.map Item.text) ++ [']'])
      (.array (items.map Item.value)) := by
  intro fuel rest enough _
  simp only [List.length_append, List.length_cons, List.length_nil] at enough
  obtain ⟨fuel, rfl⟩ := Nat.exists_eq_add_one_of_ne_zero (show fuel ≠ 0 by omega)
  have taken := takeItems?_of_text nonempty padded each reads (show _ < fuel by omega) rest
  obtain ⟨item, more, rfl⟩ := List.exists_cons_of_ne_nil nonempty
  obtain ⟨joined, whole⟩ := exists_intercalate_cons item.text (more.map Item.text)
  obtain ⟨c, tail, head, solid, notClosed⟩ := (each item List.mem_cons_self).head
  have begins : skipBlanks ([','].intercalate ((item :: more).map Item.text) ++ ']' :: rest) =
      c :: (tail ++ (item.after ++ (joined ++ ']' :: rest))) := by
    rw [List.map_cons, whole, Item.text, head]
    simp only [List.append_assoc, List.cons_append]
    rw [skipBlanks_append (padded item List.mem_cons_self).before, skipBlanks_of_not_blank solid]
  rw [List.append_assoc, List.cons_append, List.singleton_append,
    takeValue?_array begins notClosed, taken]
  rfl

theorem readsFrom_object {entries : List Entry} (nonempty : entries ≠ [])
    (padded : ∀ entry ∈ entries, entry.Padded)
    (each : ∀ entry ∈ entries, ValueText allowance entry.item.raw entry.item.value)
    (reads : ∀ entry ∈ entries, ReadsFrom allowance entry.item.raw entry.item.value) :
    ReadsFrom (allowance + 1)
      ('\x7b' :: [','].intercalate (entries.map Entry.text) ++ ['\x7d'])
      (.object (Members.ofList (entries.map Entry.member))) := by
  intro fuel rest enough _
  simp only [List.length_append, List.length_cons, List.length_nil] at enough
  obtain ⟨fuel, rfl⟩ := Nat.exists_eq_add_one_of_ne_zero (show fuel ≠ 0 by omega)
  have taken := takeMembers?_of_text nonempty padded each reads (show _ < fuel by omega) rest
  obtain ⟨entry, more, rfl⟩ := List.exists_cons_of_ne_nil nonempty
  obtain ⟨joined, whole⟩ := exists_intercalate_cons entry.text (more.map Entry.text)
  have begins := Entry.skipBlanks_text (padded entry List.mem_cons_self)
    (joined ++ '\x7d' :: rest)
  rw [← List.append_assoc, ← whole, ← List.map_cons] at begins
  rw [List.append_assoc, List.cons_append, List.singleton_append,
    takeValue?_object begins (by decide), taken]
  rfl

/-- What is written as a value is read as that value. -/
theorem readsFrom_of_text (written : ValueText allowance raw value) :
    ReadsFrom allowance raw value := by
  induction written with
  | scalar written => exact readsFrom_scalar written
  | @emptyArray allowance gap blank =>
      intro fuel rest enough _
      obtain ⟨fuel, rfl⟩ := Nat.exists_eq_add_one_of_ne_zero (Nat.ne_zero_of_lt enough)
      have closes : skipBlanks (gap ++ ']' :: rest) = ']' :: rest := by
        rw [skipBlanks_append blank, skipBlanks_of_not_blank (by decide)]
      simp [takeValue?, closes]
  | @emptyObject allowance gap blank =>
      intro fuel rest enough _
      obtain ⟨fuel, rfl⟩ := Nat.exists_eq_add_one_of_ne_zero (Nat.ne_zero_of_lt enough)
      have closes : skipBlanks (gap ++ '\x7d' :: rest) = '\x7d' :: rest := by
        rw [skipBlanks_append blank, skipBlanks_of_not_blank (by decide)]
      simp [takeValue?, closes]
  | array nonempty padded each reads => exact readsFrom_array nonempty padded each reads
  | object nonempty padded each reads => exact readsFrom_object nonempty padded each reads

end Values

/-! ## Whole texts -/

theorem readWithin?_eq_some_iff {allowance : Nat} {text : String} {value : Json} :
    readWithin? allowance text = some value ↔
      Surrounded text fun raw => ValueText allowance raw value := by
  unfold readWithin?
  dsimp only
  constructor
  · intro read
    split at read
    next found rest taken =>
      split at read
      next ended =>
        cases read
        obtain ⟨before, whole, blank⟩ := exists_skipBlanks text.toList
        obtain ⟨raw, split, written⟩ := (takesWritten _).value taken
        obtain ⟨after, last, blankAfter⟩ := exists_skipBlanks rest
        rw [List.isEmpty_iff.mp ended, List.append_nil] at last
        refine ⟨before, raw, after, ?_, blank, blankAfter, written⟩
        rw [List.append_assoc, ← last, ← split]
        exact whole
      next => cases read
    next => cases read
  · rintro ⟨before, raw, after, whole, blank, blankAfter, written⟩
    have ends : Ends after := by
      have := ends_of_blank blankAfter Number.ends_nil
      rwa [List.append_nil] at this
    have enough : raw.length ≤ 2 * text.toList.length + 1 := by
      rw [whole, List.length_append, List.length_append]
      omega
    have ended : skipBlanks after = [] := by
      have := skipBlanks_append blankAfter []
      rwa [List.append_nil] at this
    have taken := readsFrom_of_text written _ after enough ends
    rw [whole, List.append_assoc, written.skipBlanks_append blank]
    rw [whole, List.append_assoc] at taken
    rw [taken]
    simp only [ended, List.isEmpty_nil, if_true]

theorem read?_eq_some_iff {text : String} {value : Json} :
    read? text = some value ↔ Denotes text value :=
  readWithin?_eq_some_iff

/-- A text denotes one value at most. -/
theorem Denotes.unique {text : String} {value other : Json} (denotes : Denotes text value)
    (too : Denotes text other) : value = other := by
  have read := read?_eq_some_iff.mpr denotes
  exact Option.some.inj (read.symm.trans (read?_eq_some_iff.mpr too))

theorem readBytes?_toUTF8 (text : String) : readBytes? text.toUTF8 = read? text := by
  unfold readBytes?
  rw [fromUTF8?_eq_some_iff.mpr rfl]
  rfl

theorem readBytes?_eq_some_iff {content : ByteArray} {value : Json} :
    readBytes? content = some value ↔
      ∃ text : String, text.toUTF8 = content ∧ Denotes text value := by
  unfold readBytes?
  rw [Option.bind_eq_some_iff]
  exact exists_congr fun text => and_congr fromUTF8?_eq_some_iff read?_eq_some_iff

theorem readBytes?_eq_object_iff {content : ByteArray} {members : Members} :
    readBytes? content = some (.object members) ↔
      ∃ entries, ObjectBytes content entries ∧ members = Members.ofList entries := by
  rw [readBytes?_eq_some_iff]
  constructor
  · rintro ⟨text, bytes, before, raw, after, whole, blank, blankAfter, written⟩
    obtain ⟨entries, membersText, same⟩ := valueText_object_iff.mp written
    exact ⟨entries, ⟨text, bytes, before, raw, after, whole, blank, blankAfter, membersText⟩, same⟩
  · rintro ⟨entries, ⟨text, bytes, before, raw, after, whole, blank, blankAfter, written⟩, same⟩
    exact ⟨text, bytes, before, raw, after, whole, blank, blankAfter,
      valueText_object_iff.mpr ⟨entries, written, same⟩⟩

end WebviewHost.Json
