import WebviewHost.Proofs.Routes.Table

/-!
# Ambiguous routes

A list of rules is refused as a table exactly if two of its positions match one path. The report
names the first pair of overlapping prefixes, by the first position and then by the second.
-/

set_option autoImplicit false

namespace WebviewHost.Routes

/-- One of two prefixes begins with the other, character by character. -/
def Rule.Overlap (left right : Rule) : Prop :=
  left.pathPrefix.toList <+: right.pathPrefix.toList ∨
    right.pathPrefix.toList <+: left.pathPrefix.toList

/-- Rules at two different positions match one path. -/
def Ambiguous (rules : List Rule) : Prop :=
  ∃ (path : String) (i j : Nat) (left right : Rule), i ≠ j ∧
    rules[i]? = some left ∧ rules[j]? = some right ∧
    left.matchesPath path = true ∧ right.matchesPath path = true

/-- The prefixes at two positions, the first of which comes before the second, overlap. -/
def OverlapAt (rules : List Rule) (i j : Nat) : Prop :=
  i < j ∧ ∃ left right, rules[i]? = some left ∧ rules[j]? = some right ∧ left.Overlap right

/-- The least pair of overlapping positions, in lexicographic order. -/
structure FirstOverlap (rules : List Rule) (i j : Nat) : Prop where
  overlap : OverlapAt rules i j
  least : ∀ k l, OverlapAt rules k l → i < k ∨ i = k ∧ j ≤ l

section Overlap

variable {left right rule other : Rule} {rest rules : List Rule} {i j : Nat}

theorem Rule.clashesWith_iff : left.clashesWith right = true ↔ left.Overlap right := by
  unfold Rule.clashesWith Rule.Overlap
  rw [Bool.or_eq_true, Rule.matchesPath_iff, Rule.matchesPath_iff]

theorem Rule.Overlap.symm (overlap : left.Overlap right) : right.Overlap left := Or.symm overlap

/-- Two rules overlap exactly if a path is matched by both, namely the longer of the prefixes. -/
theorem Rule.overlap_iff_exists_path :
    left.Overlap right ↔
      ∃ path, left.matchesPath path = true ∧ right.matchesPath path = true := by
  constructor
  · intro overlap
    rcases overlap with leftShorter | rightShorter
    · refine ⟨right.pathPrefix, ?_, ?_⟩
      · exact Rule.matchesPath_iff.mpr leftShorter
      · exact Rule.matchesPath_iff.mpr (List.prefix_refl _)
    · refine ⟨left.pathPrefix, ?_, ?_⟩
      · exact Rule.matchesPath_iff.mpr (List.prefix_refl _)
      · exact Rule.matchesPath_iff.mpr rightShorter
  · rintro ⟨path, leftMatches, rightMatches⟩
    rw [← Rule.clashesWith_iff]
    exact Rule.clashesWith_of_matchesPath leftMatches rightMatches

theorem ambiguous_iff_exists_overlapAt : Ambiguous rules ↔ ∃ i j, OverlapAt rules i j := by
  constructor
  · rintro ⟨path, i, j, left, right, apart, atI, atJ, leftMatches, rightMatches⟩
    have overlap : left.Overlap right :=
      Rule.overlap_iff_exists_path.mpr ⟨path, leftMatches, rightMatches⟩
    rcases Nat.lt_or_gt_of_ne apart with before | after
    · exact ⟨i, j, before, left, right, atI, atJ, overlap⟩
    · exact ⟨j, i, after, right, left, atJ, atI, overlap.symm⟩
  · rintro ⟨i, j, before, left, right, atI, atJ, overlap⟩
    obtain ⟨path, leftMatches, rightMatches⟩ := Rule.overlap_iff_exists_path.mp overlap
    exact ⟨path, i, j, left, right, Nat.ne_of_lt before, atI, atJ, leftMatches, rightMatches⟩

theorem overlapAt_cons_succ : OverlapAt (rule :: rest) (i + 1) (j + 1) ↔ OverlapAt rest i j := by
  unfold OverlapAt
  rw [Nat.add_lt_add_iff_right, List.getElem?_cons_succ, List.getElem?_cons_succ]

theorem overlapAt_cons_zero :
    OverlapAt (rule :: rest) 0 (j + 1) ↔ ∃ other, rest[j]? = some other ∧ rule.Overlap other := by
  unfold OverlapAt
  simp

theorem overlapAt_cons_cases (overlap : OverlapAt (rule :: rest) i j) :
    (∃ l, i = 0 ∧ j = l + 1 ∧ ∃ other, rest[l]? = some other ∧ rule.Overlap other) ∨
      ∃ k l, i = k + 1 ∧ j = l + 1 ∧ OverlapAt rest k l := by
  cases j with
  | zero => exact absurd overlap.1 (Nat.not_lt_zero i)
  | succ l =>
      cases i with
      | zero => exact .inl ⟨l, rfl, rfl, overlapAt_cons_zero.mp overlap⟩
      | succ k => exact .inr ⟨k, l, rfl, rfl, overlapAt_cons_succ.mp overlap⟩

theorem FirstOverlap.cons (first : FirstOverlap rest i j)
    (free : ∀ other ∈ rest, ¬rule.Overlap other) :
    FirstOverlap (rule :: rest) (i + 1) (j + 1) := by
  refine ⟨overlapAt_cons_succ.mpr first.overlap, fun k l overlap => ?_⟩
  rcases overlapAt_cons_cases overlap with ⟨l, rfl, rfl, other, atL, clash⟩ | ⟨k, l, rfl, rfl, later⟩
  · exact absurd clash (free other (List.mem_of_getElem? atL))
  · have before := first.least k l later
    omega

/-- What the search reports stands at the first pair of overlapping positions. -/
theorem firstOverlap_of_firstClash? {first second : Rule}
    (found : firstClash? rules = some (first, second)) :
    ∃ i j, FirstOverlap rules i j ∧ rules[i]? = some first ∧ rules[j]? = some second := by
  induction rules with
  | nil => cases found
  | cons rule rest ih =>
      unfold firstClash? at found
      split at found
      next other hit =>
        cases found
        obtain ⟨clashes, l, inRange, atL, earlier⟩ := List.find?_eq_some_iff_getElem.mp hit
        have present : rest[l]? = some second := by
          rw [List.getElem?_eq_getElem inRange, atL]
        refine ⟨0, l + 1, ⟨?_, ?_⟩, rfl, present⟩
        · exact overlapAt_cons_zero.mpr ⟨second, present, Rule.clashesWith_iff.mp clashes⟩
        · intro k m overlap
          rcases overlapAt_cons_cases overlap with
            ⟨m, rfl, rfl, other, atM, clash⟩ | ⟨k, m, rfl, rfl, -⟩
          · -- A clash of the first rule before `l` would have been found.
            refine .inr ⟨rfl, Nat.succ_le_succ (Nat.le_of_not_lt fun sooner => ?_)⟩
            have missed := earlier m sooner
            obtain ⟨_, same⟩ := List.getElem?_eq_some_iff.mp atM
            rw [same, Rule.clashesWith_iff.mpr clash] at missed
            cases missed
          · exact .inl (Nat.succ_pos k)
      next free =>
        obtain ⟨i, j, least, atI, atJ⟩ := ih found
        refine ⟨i + 1, j + 1, least.cons fun other known clash => ?_, atI, atJ⟩
        exact List.find?_eq_none.mp free other known (Rule.clashesWith_iff.mpr clash)

end Overlap

/-! ## Tables -/

namespace Table

variable {rules : List Rule}

theorem ofRules_cases (rules : List Rule) :
    (∃ i j first second, FirstOverlap rules i j ∧ rules[i]? = some first ∧
        rules[j]? = some second ∧
        ofRules rules = .error (.overlapping first.pathPrefix second.pathPrefix)) ∨
      ofRules rules = .ok ⟨rules⟩ := by
  unfold ofRules
  split
  next first second found =>
    obtain ⟨i, j, least, atI, atJ⟩ := firstOverlap_of_firstClash? found
    exact .inl ⟨i, j, first, second, least, atI, atJ, rfl⟩
  next => exact .inr rfl

theorem Unambiguous.not_overlapAt {table : Table} (apart : table.Unambiguous) (i j : Nat) :
    ¬OverlapAt table.rules i j := by
  rintro ⟨before, left, right, atI, atJ, overlap⟩
  obtain ⟨inI, rfl⟩ := List.getElem?_eq_some_iff.mp atI
  obtain ⟨inJ, rfl⟩ := List.getElem?_eq_some_iff.mp atJ
  have free := List.pairwise_iff_getElem.mp apart i j inI inJ before
  rw [Rule.clashesWith_iff.mpr overlap] at free
  cases free

theorem ofRules_eq_ok_iff : (∃ table, ofRules rules = .ok table) ↔ ¬Ambiguous rules := by
  rw [ambiguous_iff_exists_overlapAt]
  constructor
  · rintro ⟨table, made⟩ ⟨i, j, overlap⟩
    obtain ⟨rfl, apart⟩ := ofRules_ok made
    exact apart.not_overlapAt i j overlap
  · intro free
    rcases ofRules_cases rules with ⟨i, j, _, _, least, _⟩ | accepted
    · exact absurd ⟨i, j, least.overlap⟩ free
    · exact ⟨_, accepted⟩

theorem ambiguous_of_perm {other : List Rule} (same : rules.Perm other)
    (ambiguous : Ambiguous other) : Ambiguous rules := by
  apply Classical.byContradiction
  intro free
  obtain ⟨table, made⟩ := ofRules_eq_ok_iff.mpr free
  obtain ⟨rfl, apart⟩ := ofRules_ok made
  have symmetric : ∀ {left right : Rule}, left.clashesWith right = false →
      right.clashesWith left = false := by
    intro left right free
    rw [Bool.eq_false_iff] at free ⊢
    exact fun clash => free (Rule.clashesWith_iff.mpr (Rule.clashesWith_iff.mp clash).symm)
  have reordered : Table.Unambiguous ⟨other⟩ := (same.pairwise_iff symmetric).mp apart
  obtain ⟨i, j, overlap⟩ := ambiguous_iff_exists_overlapAt.mp ambiguous
  exact reordered.not_overlapAt i j overlap

/-- What a list of rules comes to when a table is to be made of it. -/
structure Decided (rules : List Rule) : Prop where
  refused : (∃ error, ofRules rules = .error error) ↔ Ambiguous rules
  reported : ∀ error, ofRules rules = .error error →
    ∃ i j first second, FirstOverlap rules i j ∧ rules[i]? = some first ∧
      rules[j]? = some second ∧ error = .overlapping first.pathPrefix second.pathPrefix
  single : ∀ table, ofRules rules = .ok table →
    ∀ (path : String) (i j : Nat) (left right : Rule),
      rules[i]? = some left → rules[j]? = some right →
      left.matchesPath path = true → right.matchesPath path = true → i = j
  routed : ∀ table, ofRules rules = .ok table → ∀ path,
    (∀ rule, table.route? path = some rule ↔ rule ∈ rules ∧ rule.matchesPath path = true) ∧
      (table.route? path = none ↔ ∀ rule ∈ rules, rule.matchesPath path = false)
  reordered : ∀ other, rules.Perm other →
    ((∃ table, ofRules rules = .ok table) ↔ ∃ table, ofRules other = .ok table) ∧
      ∀ table otherTable, ofRules rules = .ok table → ofRules other = .ok otherTable →
        ∀ path, otherTable.route? path = table.route? path

/-- A list of rules is refused exactly if it is ambiguous, the first overlap is reported, and the
order of an accepted list does not matter. -/
theorem ofRules_decides (rules : List Rule) : Decided rules := by
  constructor
  case refused =>
    constructor
    · rintro ⟨error, refused⟩
      apply Classical.byContradiction
      intro free
      obtain ⟨table, made⟩ := ofRules_eq_ok_iff.mpr free
      rw [made] at refused
      cases refused
    · intro ambiguous
      rcases ofRules_cases rules with ⟨_, _, _, _, _, _, _, refused⟩ | made
      · exact ⟨_, refused⟩
      · exact absurd ambiguous (ofRules_eq_ok_iff.mp ⟨_, made⟩)
  case reported =>
    intro error refused
    rcases ofRules_cases rules with ⟨i, j, first, second, least, atI, atJ, report⟩ | made
    · rw [report] at refused
      cases refused
      exact ⟨i, j, first, second, least, atI, atJ, rfl⟩
    · rw [made] at refused
      cases refused
  case single =>
    intro table made path i j left right atI atJ leftMatches rightMatches
    apply Classical.byContradiction
    intro apart
    exact ofRules_eq_ok_iff.mp ⟨table, made⟩
      ⟨path, i, j, left, right, apart, atI, atJ, leftMatches, rightMatches⟩
  case routed =>
    intro table made path
    obtain ⟨rfl, apart⟩ := ofRules_ok made
    refine ⟨fun rule => apart.route?_eq_some_iff, ?_⟩
    unfold route?
    simp
  case reordered =>
    intro other same
    refine ⟨?_, ?_⟩
    · rw [ofRules_eq_ok_iff, ofRules_eq_ok_iff]
      exact not_congr ⟨ambiguous_of_perm same.symm, ambiguous_of_perm same⟩
    · intro table otherTable made otherMade path
      obtain ⟨rfl, apart⟩ := ofRules_ok made
      obtain ⟨rfl, otherApart⟩ := ofRules_ok otherMade
      apply Option.ext
      intro rule
      rw [otherApart.route?_eq_some_iff, apart.route?_eq_some_iff, same.mem_iff]

end Table

end WebviewHost.Routes
