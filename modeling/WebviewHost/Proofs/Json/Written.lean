import WebviewHost.Proofs.Json.Grammar

/-!
# What is read is written so

Every value that the reader takes off the front of a text is written there as the grammar says, and
nothing is taken besides.
-/

set_option autoImplicit false

namespace WebviewHost.Json

open WebviewHost.Number (literalText_of_take)

/-! ## Strings and scalars -/

private theorem stringText_of_map {piece chars text rest : List Char} {c : Char}
    (first : CharText piece c)
    (others : ∀ {text}, takeString? chars = some (text, rest) →
      ∃ raw, chars = raw ++ '"' :: rest ∧ StringText raw text)
    (taken : (takeString? chars).map (fun (text, rest) => (c :: text, rest)) = some (text, rest)) :
    ∃ raw, piece ++ chars = raw ++ '"' :: rest ∧ StringText raw text := by
  obtain ⟨⟨more, after⟩, found, same⟩ := Option.map_eq_some_iff.mp taken
  cases same
  obtain ⟨raw, rfl, written⟩ := others found
  exact ⟨piece ++ raw, (List.append_assoc piece raw _).symm, .cons first written⟩

theorem stringText_of_take {chars text rest : List Char}
    (taken : takeString? chars = some (text, rest)) :
    ∃ raw, chars = raw ++ '"' :: rest ∧ StringText raw text := by
  fun_induction takeString? chars generalizing text with
  | case2 rest =>
      cases taken
      exact ⟨[], rfl, .nil⟩
  | case5 a b c d high highDigits isHigh e f g h rest low lowDigits isLow ih =>
      exact (stringText_of_map (.pair highDigits isHigh lowDigits isLow) ih taken :)
  | case9 a b c d rest unit digits notHigh notLow ih =>
      exact (stringText_of_map
        (.unit digits (eq_false_of_ne_true notHigh) (eq_false_of_ne_true notLow))
        ih taken :)
  | case11 c rest _ meant meaning ih => exact (stringText_of_map (.escape meaning) ih taken :)
  | case13 c rest noQuote _ _ shown ih =>
      have printed : 0x20 ≤ c.toNat ∧ c ≠ '\\' := by simpa using shown
      exact (stringText_of_map (.plain noQuote printed.2 printed.1) ih taken :)
  | _ => cases taken

section Values

variable {text rest : List Char} {allowance fuel : Nat}

theorem exists_skipBlanks (text : List Char) :
    ∃ gap, text = gap ++ skipBlanks text ∧ Blank gap :=
  ⟨text.takeWhile isBlank, List.takeWhile_append_dropWhile.symm,
    fun c member => List.all_eq_true.mp List.all_takeWhile c member⟩

theorem eq_append_of_dropWord? {word : List Char} (dropped : dropWord? word text = some rest) :
    text = word ++ rest := by
  induction word generalizing text with
  | nil =>
      cases dropped
      rfl
  | cons c word ih =>
      cases text with
      | nil => cases dropped
      | cons d text =>
          rw [dropWord?] at dropped
          split at dropped
          next same => rw [same, ih dropped, List.cons_append]
          next => cases dropped

theorem scalarText_of_take {value : Json} (taken : takeScalar? text = some (value, rest)) :
    ∃ raw, text = raw ++ rest ∧ ScalarText raw value := by
  unfold takeScalar? at taken
  split at taken
  · obtain ⟨⟨chars, after⟩, found, same⟩ := Option.map_eq_some_iff.mp taken
    cases same
    obtain ⟨raw, rfl, written⟩ := stringText_of_take found
    refine ⟨'"' :: raw ++ ['"'], by simp, .string ?_⟩
    rw [String.toList_ofList]
    exact written
  · obtain ⟨after, found, same⟩ := Option.map_eq_some_iff.mp taken
    cases same
    exact ⟨_, congrArg ('n' :: ·) (eq_append_of_dropWord? found), .null⟩
  · obtain ⟨after, found, same⟩ := Option.map_eq_some_iff.mp taken
    cases same
    exact ⟨_, congrArg ('t' :: ·) (eq_append_of_dropWord? found), .bool true⟩
  · obtain ⟨after, found, same⟩ := Option.map_eq_some_iff.mp taken
    cases same
    exact ⟨_, congrArg ('f' :: ·) (eq_append_of_dropWord? found), .bool false⟩
  · obtain ⟨⟨literal, after⟩, found, last⟩ := Option.bind_eq_some_iff.mp taken
    obtain ⟨number, denoted, same⟩ := Option.bind_eq_some_iff.mp last
    cases same
    obtain ⟨raw, whole, written⟩ := literalText_of_take found
    exact ⟨raw, whole, .number written denoted⟩

/-! ## Items and members -/

theorem intercalate_map_cons {α : Type} (text : α → List Char) (first : α) {others : List α}
    (nonempty : others ≠ []) :
    [','].intercalate ((first :: others).map text) =
      text first ++ ',' :: [','].intercalate (others.map text) := by
  obtain ⟨next, others, rfl⟩ := List.exists_cons_of_ne_nil nonempty
  rw [List.map_cons, List.map_cons, List.intercalate_cons_cons, List.append_assoc]
  rfl

/-- The items of an array, of which there is at least one, up to its closing bracket. -/
def TakesItems (allowance : Nat) (text : List Char) (values : List Json) (rest : List Char) :
    Prop :=
  ∃ items : List Item, items ≠ [] ∧ values = items.map Item.value ∧
    text = [','].intercalate (items.map Item.text) ++ ']' :: rest ∧
    (∀ item ∈ items, item.Padded) ∧ ∀ item ∈ items, ValueText allowance item.raw item.value

theorem TakesItems.last {item : Item} (padded : item.Padded)
    (written : ValueText allowance item.raw item.value) :
    TakesItems allowance (item.text ++ ']' :: rest) [item.value] rest := by
  refine ⟨[item], List.cons_ne_nil item [], rfl, ?_, ?_, ?_⟩
  · rw [List.map_singleton, List.intercalate_singleton]
  · exact fun _ member => List.mem_singleton.mp member ▸ padded
  · exact fun _ member => List.mem_singleton.mp member ▸ written

theorem TakesItems.cons {item : Item} {others : List Char} {values : List Json}
    (padded : item.Padded) (written : ValueText allowance item.raw item.value)
    (more : TakesItems allowance others values rest) :
    TakesItems allowance (item.text ++ ',' :: others) (item.value :: values) rest := by
  obtain ⟨items, nonempty, rfl, rfl, paddedMore, each⟩ := more
  refine ⟨item :: items, List.cons_ne_nil item items, rfl, ?_, ?_, ?_⟩
  · rw [intercalate_map_cons Item.text item nonempty, List.append_assoc, List.cons_append]
  · exact List.forall_mem_cons.mpr ⟨padded, paddedMore⟩
  · exact List.forall_mem_cons.mpr ⟨written, each⟩

/-- The members of an object, of which there is at least one, up to its closing brace. -/
def TakesMembers (allowance : Nat) (text : List Char) (members : List (String × Json))
    (rest : List Char) : Prop :=
  ∃ entries : List Entry, entries ≠ [] ∧ members = entries.map Entry.member ∧
    text = [','].intercalate (entries.map Entry.text) ++ '\x7d' :: rest ∧
    (∀ entry ∈ entries, entry.Padded) ∧
    ∀ entry ∈ entries, ValueText allowance entry.item.raw entry.item.value

theorem TakesMembers.last {entry : Entry} (padded : entry.Padded)
    (written : ValueText allowance entry.item.raw entry.item.value) :
    TakesMembers allowance (entry.text ++ '\x7d' :: rest) [entry.member] rest := by
  refine ⟨[entry], List.cons_ne_nil entry [], rfl, ?_, ?_, ?_⟩
  · rw [List.map_singleton, List.intercalate_singleton]
  · exact fun _ member => List.mem_singleton.mp member ▸ padded
  · exact fun _ member => List.mem_singleton.mp member ▸ written

theorem TakesMembers.cons {entry : Entry} {others : List Char} {members : List (String × Json)}
    (padded : entry.Padded) (written : ValueText allowance entry.item.raw entry.item.value)
    (more : TakesMembers allowance others members rest) :
    TakesMembers allowance (entry.text ++ ',' :: others) (entry.member :: members) rest := by
  obtain ⟨entries, nonempty, rfl, rfl, paddedMore, each⟩ := more
  refine ⟨entry :: entries, List.cons_ne_nil entry entries, rfl, ?_, ?_, ?_⟩
  · rw [intercalate_map_cons Entry.text entry nonempty, List.append_assoc, List.cons_append]
  · exact List.forall_mem_cons.mpr ⟨padded, paddedMore⟩
  · exact List.forall_mem_cons.mpr ⟨written, each⟩

theorem TakesItems.valueText {values : List Json} (taken : TakesItems allowance text values rest) :
    ∃ raw, '[' :: text = raw ++ rest ∧ ValueText (allowance + 1) raw (.array values) := by
  obtain ⟨items, nonempty, rfl, rfl, padded, each⟩ := taken
  exact ⟨_, by simp, .array nonempty padded each⟩

theorem TakesMembers.valueText {members : List (String × Json)}
    (taken : TakesMembers allowance text members rest) :
    ∃ raw, '\x7b' :: text = raw ++ rest ∧
      ValueText (allowance + 1) raw (.object (Members.ofList members)) := by
  obtain ⟨entries, nonempty, rfl, rfl, padded, each⟩ := taken
  exact ⟨_, by simp, .object nonempty padded each⟩

/-! ## The readers -/

/-- What the three readers take with some fuel is written so. -/
structure TakesWritten (fuel : Nat) : Prop where
  value : ∀ {allowance text value rest}, takeValue? fuel allowance text = some (value, rest) →
    ∃ raw, text = raw ++ rest ∧ ValueText allowance raw value
  items : ∀ {allowance text values rest},
    takeItems? fuel allowance (skipBlanks text) = some (values, rest) →
    TakesItems allowance text values rest
  members : ∀ {allowance text members rest},
    takeMembers? fuel allowance (skipBlanks text) = some (members, rest) →
    TakesMembers allowance text members rest

theorem TakesWritten.value_succ (takes : TakesWritten fuel) {value : Json}
    (taken : takeValue? (fuel + 1) allowance text = some (value, rest)) :
    ∃ raw, text = raw ++ rest ∧ ValueText allowance raw value := by
  unfold takeValue? at taken
  split at taken
  next after =>
    cases allowance with
    | zero => cases taken
    | succ allowance =>
        obtain ⟨gap, whole, blank⟩ := exists_skipBlanks after
        simp only at taken
        split at taken
        next closed =>
          cases taken
          rw [closed] at whole
          exact ⟨'[' :: gap ++ [']'], by simp [whole], .emptyArray blank⟩
        next =>
          obtain ⟨⟨items, last⟩, found, same⟩ := Option.map_eq_some_iff.mp taken
          cases same
          exact (takes.items found).valueText
  next after =>
    cases allowance with
    | zero => cases taken
    | succ allowance =>
        obtain ⟨gap, whole, blank⟩ := exists_skipBlanks after
        simp only at taken
        split at taken
        next closed =>
          cases taken
          rw [closed] at whole
          exact ⟨'\x7b' :: gap ++ ['\x7d'], by simp [whole], .emptyObject blank⟩
        next =>
          obtain ⟨⟨members, last⟩, found, same⟩ := Option.map_eq_some_iff.mp taken
          cases same
          exact (takes.members found).valueText
  next =>
    obtain ⟨raw, whole, written⟩ := scalarText_of_take taken
    exact ⟨raw, whole, .scalar written⟩

theorem TakesWritten.items_succ (takes : TakesWritten fuel) {values : List Json}
    (taken : takeItems? (fuel + 1) allowance (skipBlanks text) = some (values, rest)) :
    TakesItems allowance text values rest := by
  obtain ⟨before, wholeText, blank⟩ := exists_skipBlanks text
  unfold takeItems? at taken
  split at taken
  next => cases taken
  next value after first =>
    obtain ⟨raw, wholeItem, written⟩ := takes.value first
    obtain ⟨gap, wholeAfter, blankAfter⟩ := exists_skipBlanks after
    have padded : Item.Padded ⟨before, raw, gap, value⟩ := ⟨blank, blankAfter⟩
    rw [wholeText, wholeItem, wholeAfter]
    split at taken
    next closed =>
      cases taken
      rw [closed]
      simpa [Item.text] using TakesItems.last padded written
    next more =>
      obtain ⟨⟨others, last⟩, found, same⟩ := Option.map_eq_some_iff.mp taken
      cases same
      rw [more]
      simpa [Item.text] using TakesItems.cons padded written (takes.items found)
    next => cases taken

theorem TakesWritten.members_succ (takes : TakesWritten fuel) {members : List (String × Json)}
    (taken : takeMembers? (fuel + 1) allowance (skipBlanks text) = some (members, rest)) :
    TakesMembers allowance text members rest := by
  obtain ⟨before, wholeText, blank⟩ := exists_skipBlanks text
  unfold takeMembers? at taken
  split at taken
  next quoted opened =>
    split at taken
    next => cases taken
    next name afterName named =>
      obtain ⟨rawName, wholeName, writtenName⟩ := stringText_of_take named
      obtain ⟨gap, wholeGap, blankGap⟩ := exists_skipBlanks afterName
      split at taken
      next afterColon colon =>
        obtain ⟨gapValue, wholeColon, blankColon⟩ := exists_skipBlanks afterColon
        split at taken
        next => cases taken
        next value after first =>
          obtain ⟨raw, wholeItem, written⟩ := takes.value first
          obtain ⟨gapAfter, wholeAfter, blankAfter⟩ := exists_skipBlanks after
          have padded : Entry.Padded
              ⟨before, rawName, String.ofList name, gap, ⟨gapValue, raw, gapAfter, value⟩⟩ :=
            ⟨blank, String.toList_ofList ▸ writtenName, blankGap, blankColon, blankAfter⟩
          rw [wholeText, opened, wholeName, wholeGap, colon, wholeColon, wholeItem, wholeAfter]
          split at taken
          next closed =>
            cases taken
            rw [closed]
            simpa [Entry.text, Entry.member, Item.text] using TakesMembers.last padded written
          next more =>
            obtain ⟨⟨others, last⟩, found, same⟩ := Option.map_eq_some_iff.mp taken
            cases same
            rw [more]
            simpa [Entry.text, Entry.member, Item.text] using
              TakesMembers.cons padded written (takes.members found)
          next => cases taken
      next => cases taken
  next => cases taken

theorem takesWritten (fuel : Nat) : TakesWritten fuel := by
  induction fuel with
  | zero => exact ⟨fun taken => by simp [takeValue?] at taken,
      fun taken => by simp [takeItems?] at taken, fun taken => by simp [takeMembers?] at taken⟩
  | succ fuel ih => exact ⟨ih.value_succ, ih.items_succ, ih.members_succ⟩

end Values

end WebviewHost.Json
