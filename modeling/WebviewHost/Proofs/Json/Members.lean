import WebviewHost.Json.Basic

/-!
# Members of objects

Laws of the members of an object: what a key has after a change, and that the order of the keys is
kept. In that order a change can be undone exactly.
-/

set_option autoImplicit false

namespace WebviewHost.Members

section Lookup

variable (key other : String) (value : Json)

theorem get?_insert (members : Members) :
    get? (insert key value members) other =
      if other = key then some value else get? members other := by
  induction members with
  | nil => simp [insert, get?, eq_comm]
  | cons entry rest ih =>
      obtain ⟨name, old⟩ := entry
      unfold insert
      split
      · simp only [get?, eq_comm]
      · split
        · rename_i same
          subst same
          by_cases asked : other = name <;> simp [get?, asked, eq_comm]
        · rename_i apart
          simp only [get?, ih]
          by_cases asked : name = other
          · subst asked
            simp [apart]
          · simp [asked]

theorem get?_erase (members : Members) :
    get? (erase key members) other = if other = key then none else get? members other := by
  induction members with
  | nil => simp [erase, get?]
  | cons entry rest ih =>
      obtain ⟨name, old⟩ := entry
      unfold erase at ih ⊢
      by_cases same : name = key
      · subst same
        simp only [ne_eq, not_true_eq_false, decide_false, Bool.false_eq_true, not_false_eq_true,
          List.filter_cons_of_neg, ih]
        by_cases asked : other = name
        · simp [asked]
        · simp [asked, get?, Ne.symm asked]
      · simp only [ne_eq, same, not_false_eq_true, decide_true, List.filter_cons_of_pos, get?, ih]
        by_cases asked : name = other
        · subst asked
          simp [same]
        · simp [asked]

theorem get?_append (left right : Members) (key : String) :
    get? (left ++ right) key = (get? left key).or (get? right key) := by
  induction left with
  | nil => rfl
  | cons entry rest ih =>
      obtain ⟨name, value⟩ := entry
      rw [List.cons_append, get?, get?]
      split
      · rfl
      · exact ih

theorem get?_eq_some_of_nodup {members : Members} (distinct : (members.map (·.1)).Nodup)
    {key : String} {value : Json} (member : (key, value) ∈ members) :
    get? members key = some value := by
  induction members with
  | nil => cases member
  | cons entry rest ih =>
      obtain ⟨name, first⟩ := entry
      obtain ⟨apart, others⟩ := List.nodup_cons.mp distinct
      rw [get?]
      rcases List.mem_cons.mp member with same | later
      · cases same
        exact if_pos rfl
      · rw [if_neg, ih others later]
        intro same
        subst same
        exact apart (List.mem_map.mpr ⟨_, later, rfl⟩)

theorem contains_insert (members : Members) :
    contains (insert key value members) other =
      (decide (other = key) || contains members other) := by
  unfold contains
  rw [get?_insert]
  by_cases same : other = key <;> simp [same]

end Lookup

theorem get?_eq_none_iff {members : Members} {key : String} :
    get? members key = none ↔ ∀ entry ∈ members, entry.1 ≠ key := by
  induction members with
  | nil => simp [get?]
  | cons entry rest ih =>
      obtain ⟨name, value⟩ := entry
      by_cases same : name = key <;> simp [get?, same, ih]

theorem mem_of_get?_eq_some {members : Members} {key : String} {value : Json}
    (found : get? members key = some value) : (key, value) ∈ members := by
  induction members with
  | nil => cases found
  | cons entry rest ih =>
      obtain ⟨name, first⟩ := entry
      by_cases same : name = key
      · subst same
        simp only [get?, if_pos, Option.some.injEq] at found
        simp [found]
      · simp only [get?, if_neg same] at found
        exact List.mem_cons_of_mem _ (ih found)

/-! ## Order -/

theorem mem_insert {members : Members} {key : String} {value : Json} {entry : String × Json}
    (member : entry ∈ insert key value members) : entry = (key, value) ∨ entry ∈ members := by
  induction members with
  | nil => simpa [insert] using member
  | cons first rest ih =>
      obtain ⟨name, old⟩ := first
      unfold insert at member
      split at member
      · simpa using member
      · split at member
        · rcases List.mem_cons.mp member with new | known
          · exact .inl new
          · exact .inr (List.mem_cons_of_mem _ known)
        · rcases List.mem_cons.mp member with same | later
          · exact .inr (by simp [same])
          · exact (ih later).imp id (List.mem_cons_of_mem _)

theorem ordered_cons {name : String} {value : Json} {rest : Members} :
    Ordered ((name, value) :: rest) ↔ (∀ entry ∈ rest, name < entry.1) ∧ Ordered rest :=
  List.pairwise_cons

private theorem lt_of_not_lt {left right : String} (notBelow : ¬ left < right)
    (apart : right ≠ left) : right < left :=
  Classical.byContradiction fun notAbove =>
    apart (String.le_antisymm (String.not_lt.mp notBelow) (String.not_lt.mp notAbove))

theorem Ordered.insert {members : Members} (ordered : members.Ordered) (key : String)
    (value : Json) : (Members.insert key value members).Ordered := by
  induction members with
  | nil => simp [Members.insert, Ordered]
  | cons first rest ih =>
      obtain ⟨name, old⟩ := first
      have whole := ordered
      rw [ordered_cons] at ordered
      obtain ⟨below, tail⟩ := ordered
      unfold Members.insert
      split
      · rename_i front
        refine ordered_cons.mpr ⟨fun entry member => ?_, whole⟩
        rcases List.mem_cons.mp member with rfl | later
        · exact front
        · exact String.lt_trans front (below entry later)
      · rename_i notFront
        split
        · rename_i same
          subst same
          exact ordered_cons.mpr ⟨below, tail⟩
        · rename_i apart
          refine ordered_cons.mpr ⟨fun entry member => ?_, ih tail⟩
          rcases mem_insert member with rfl | known
          · exact lt_of_not_lt notFront apart
          · exact below entry known

theorem Ordered.erase {members : Members} (ordered : members.Ordered) (key : String) :
    (Members.erase key members).Ordered :=
  List.Pairwise.filter _ ordered

theorem Ordered.get?_eq_none {name key : String} {value : Json} {rest : Members}
    (ordered : Ordered ((name, value) :: rest)) (below : key < name) :
    get? ((name, value) :: rest) key = none := by
  refine get?_eq_none_iff.mpr fun entry member same => ?_
  subst same
  rcases List.mem_cons.mp member with rfl | later
  · exact String.lt_irrefl _ below
  · exact String.lt_irrefl _ (String.lt_trans below ((ordered_cons.mp ordered).1 entry later))

theorem Ordered.get?_rest_eq_none {name : String} {value : Json} {rest : Members}
    (ordered : Ordered ((name, value) :: rest)) : get? rest name = none :=
  get?_eq_none_iff.mpr fun entry member same =>
    String.lt_irrefl name (same ▸ (ordered_cons.mp ordered).1 entry member)

theorem Ordered.get?_eq_some_of_mem {members : Members} (ordered : members.Ordered) {key : String}
    {value : Json} (member : (key, value) ∈ members) : get? members key = some value := by
  induction members with
  | nil => cases member
  | cons first rest ih =>
      obtain ⟨name, old⟩ := first
      obtain ⟨below, tail⟩ := ordered_cons.mp ordered
      rcases List.mem_cons.mp member with same | later
      · cases same
        simp [get?]
      · have apart : name ≠ key := fun same =>
          String.lt_irrefl name (same ▸ below (key, value) later)
        rw [get?, if_neg apart]
        exact ih tail later

/-- Ordered members are determined by the values of the keys. -/
theorem Ordered.eq_of_get?_eq {left right : Members} (ordered : left.Ordered)
    (orderedRight : right.Ordered) (same : ∀ key, get? left key = get? right key) :
    left = right := by
  induction left generalizing right with
  | nil =>
      cases right with
      | nil => rfl
      | cons first rest => simpa [get?] using same first.1
  | cons first rest ih =>
      obtain ⟨name, value⟩ := first
      cases right with
      | nil => simpa [get?] using same name
      | cons firstRight restRight =>
          obtain ⟨nameRight, valueRight⟩ := firstRight
          have names : name = nameRight := by
            apply Classical.byContradiction
            intro apart
            -- The smaller of the two first keys is absent on the other side.
            by_cases below : name < nameRight
            · have absent := orderedRight.get?_eq_none below
              rw [← same name] at absent
              simp [get?] at absent
            · have absent := ordered.get?_eq_none (lt_of_not_lt below (Ne.symm apart))
              rw [same nameRight] at absent
              simp [get?] at absent
          subst names
          have values : value = valueRight := by simpa [get?] using same name
          have rests : rest = restRight := by
            refine ih (ordered_cons.mp ordered).2 (ordered_cons.mp orderedRight).2 fun key => ?_
            by_cases first : name = key
            · subst first
              rw [ordered.get?_rest_eq_none, orderedRight.get?_rest_eq_none]
            · simpa [get?, first] using same key
          rw [values, rests]

/-! ## Members read one by one -/

theorem ordered_foldl_insert {members : Members} (ordered : members.Ordered)
    (entries : List (String × Json)) :
    Ordered (entries.foldl (fun members entry => Members.insert entry.1 entry.2 members) members) := by
  induction entries generalizing members with
  | nil => exact ordered
  | cons entry rest ih => exact ih (ordered.insert entry.1 entry.2)

theorem ordered_ofList (entries : List (String × Json)) : Ordered (ofList entries) :=
  ordered_foldl_insert .nil entries

theorem mem_of_mem_ofList {entries : List (String × Json)} {entry : String × Json}
    (member : entry ∈ ofList entries) : entry ∈ entries := by
  have general : ∀ (entries : List (String × Json)) (members : Members),
      entry ∈ entries.foldl (fun members entry => Members.insert entry.1 entry.2 members) members →
      entry ∈ entries ∨ entry ∈ members := by
    intro entries
    induction entries with
    | nil => exact fun members member => .inr member
    | cons first rest ih =>
        intro members member
        rcases ih _ member with later | known
        · exact .inl (List.mem_cons_of_mem _ later)
        · rcases mem_insert known with same | before
          · exact .inl (by simp [same])
          · exact .inr before
  exact (general entries [] member).resolve_right List.not_mem_nil

theorem Ordered.get?_foldl_insert {entries : Members} (ordered : entries.Ordered)
    (members : Members) (key : String) :
    get? (entries.foldl (fun members entry => Members.insert entry.1 entry.2 members) members) key =
      (get? entries key).or (get? members key) := by
  induction entries generalizing members with
  | nil => simp [get?]
  | cons entry rest ih =>
      obtain ⟨name, value⟩ := entry
      rw [List.foldl_cons, ih (ordered_cons.mp ordered).2, get?_insert]
      by_cases same : name = key
      · subst same
        simp [get?, ordered.get?_rest_eq_none]
      · simp [get?, same, Ne.symm same]

theorem Ordered.ofList_eq {members : Members} (ordered : members.Ordered) :
    ofList members = members := by
  refine (ordered_ofList members).eq_of_get?_eq ordered fun key => ?_
  unfold ofList
  rw [ordered.get?_foldl_insert]
  simp [get?]

end WebviewHost.Members
