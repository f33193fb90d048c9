import Mathlib.Data.List.Forall2
import WebviewHost.Routes.Table

/-!
# Routing is unambiguous

Two prefixes of one path are comparable, so that no two rules of a table match the same path, and
the rule for a path is the one rule that matches it. What a table is made of has passed the checks
that rules are made with.
-/

set_option autoImplicit false

namespace WebviewHost.Routes

/-! ## Rules -/

theorem Rule.matchesPath_iff {rule : Rule} {path : String} :
    rule.matchesPath path = true ↔ rule.pathPrefix.toList <+: path.toList :=
  List.isPrefixOf_iff_prefix

theorem Rule.clashesWith_of_matchesPath {left right : Rule} {path : String}
    (leftMatches : left.matchesPath path = true) (rightMatches : right.matchesPath path = true) :
    left.clashesWith right = true := by
  rw [Rule.matchesPath_iff] at leftMatches rightMatches
  unfold Rule.clashesWith
  rw [Bool.or_eq_true, Rule.matchesPath_iff, Rule.matchesPath_iff]
  exact List.prefix_or_prefix_of_prefix leftMatches rightMatches

/-- What a rule that was made has passed. -/
structure Rule.WellFormed (rule : Rule) : Prop where
  pathPrefix : isPathPrefix rule.pathPrefix.toList = true
  target : ∃ host, authority? rule.target.toList = some host ∧ isAuthority host = true

theorem targetOfOrigin?_eq_some {origin target : List Char}
    (found : targetOfOrigin? origin = some target) :
    target = dropTrailingSlash origin ∧
      ∃ host, authority? target = some host ∧ isAuthority host = true := by
  unfold targetOfOrigin? at found
  simp only [Option.ite_none_right_eq_some, Option.some.injEq] at found
  obtain ⟨known, rfl⟩ := found
  exact ⟨rfl, (Option.any_eq_true _ _).mp known⟩

theorem Rule.make_eq_ok_iff {pathPrefix origin : String} {rule : Rule} :
    Rule.make pathPrefix origin = .ok rule ↔
      rule.pathPrefix = pathPrefix ∧ isPathPrefix pathPrefix.toList = true ∧
        targetOfOrigin? origin.toList = some rule.target.toList := by
  unfold Rule.make
  constructor
  · intro made
    split at made
    next usable =>
      split at made
      next target found =>
        injection made with same
        subst same
        exact ⟨rfl, usable, by rw [found, String.toList_ofList]⟩
      next => cases made
    next => cases made
  · rintro ⟨rfl, usable, found⟩
    rw [if_pos usable, found]
    simp only [String.ofList_toList]

theorem Rule.make_ok {pathPrefix origin : String} {rule : Rule}
    (made : Rule.make pathPrefix origin = .ok rule) : rule.WellFormed := by
  obtain ⟨rfl, usable, found⟩ := Rule.make_eq_ok_iff.mp made
  exact ⟨usable, (targetOfOrigin?_eq_some found).2⟩

theorem Rule.make_eq {pathPrefix origin : String} {rule : Rule}
    (made : Rule.make pathPrefix origin = .ok rule) :
    rule.pathPrefix = pathPrefix ∧ targetOfOrigin? origin.toList = some rule.target.toList := by
  obtain ⟨same, -, found⟩ := Rule.make_eq_ok_iff.mp made
  exact ⟨same, found⟩

theorem stripPrefix?_eq_some {lead text rest : List Char}
    (stripped : stripPrefix? lead text = some rest) : text = lead ++ rest := by
  fun_induction stripPrefix? lead text with
  | case1 text => simpa using stripped
  | case2 lead c text ih => rw [ih stripped, List.cons_append]
  | case3 => cases stripped
  | case4 => cases stripped

theorem authority?_eq_some {origin host : List Char} (found : authority? origin = some host) :
    ∃ scheme, (scheme = "http://".toList ∨ scheme = "https://".toList) ∧ origin = scheme ++ host := by
  unfold authority? at found
  rcases Option.or_eq_some_iff.mp found with plain | ⟨-, secure⟩
  · exact ⟨_, .inl rfl, stripPrefix?_eq_some plain⟩
  · exact ⟨_, .inr rfl, stripPrefix?_eq_some secure⟩

theorem Rule.WellFormed.begins {rule : Rule} (wellFormed : rule.WellFormed) {path : String}
    (under : rule.matchesPath path = true) : ∃ rest, path.toList = '/' :: rest := by
  obtain ⟨after, whole⟩ := Rule.matchesPath_iff.mp under
  have usable := wellFormed.pathPrefix
  unfold isPathPrefix at usable
  split at usable
  next lead shape =>
    rw [shape] at whole
    exact ⟨lead ++ after, whole.symm⟩
  next => cases usable

theorem not_mem_of_isAuthority {host : List Char} (valid : isAuthority host = true) {c : Char}
    (barred : c = '/' ∨ c = '?' ∨ c = '#' ∨ c = ' ') : c ∉ host := by
  intro known
  have allowed := List.all_eq_true.mp (Bool.and_eq_true_iff.mp valid).2 c known
  rcases barred with rfl | rfl | rfl | rfl <;> simp at allowed

/-! ## Lists that are read item by item -/

private theorem bind_eq_ok_iff {ε α β : Type} {first : Except ε α} {next : α → Except ε β}
    {result : β} :
    first >>= next = .ok result ↔ ∃ value, first = .ok value ∧ next value = .ok result := by
  constructor
  · intro done
    cases first with
    | error error => cases done
    | ok value => exact ⟨value, rfl, done⟩
  · rintro ⟨value, rfl, done⟩
    exact done

/-- A list is read exactly if each of its items is, in their order. -/
theorem mapM_eq_ok_iff {ε α β : Type} {read : α → Except ε β} {items : List α} {results : List β} :
    items.mapM read = .ok results ↔
      List.Forall₂ (fun item result => read item = .ok result) items results := by
  induction items generalizing results with
  | nil =>
      rw [List.mapM_nil, List.forall₂_nil_left_iff]
      exact ⟨fun done => by cases done; rfl, fun same => by rw [same]; rfl⟩
  | cons item rest ih =>
      rw [List.mapM_cons, List.forall₂_cons_left_iff, bind_eq_ok_iff]
      constructor
      · rintro ⟨result, first, done⟩
        obtain ⟨others, read, ⟨⟩⟩ := bind_eq_ok_iff.mp done
        exact ⟨result, others, first, ih.mp read, rfl⟩
      · rintro ⟨result, others, first, related, rfl⟩
        exact ⟨result, first, bind_eq_ok_iff.mpr ⟨others, ih.mpr related, rfl⟩⟩

private theorem exists_mem_of_forall₂ {α β : Type} {R : α → β → Prop} {items : List α}
    {results : List β} (related : List.Forall₂ R items results) :
    ∀ item ∈ items, ∃ result ∈ results, R item result := by
  induction related with
  | nil => exact List.forall_mem_nil _
  | @cons item result items results first _ ih =>
      refine List.forall_mem_cons.mpr ⟨⟨result, List.mem_cons_self, first⟩, ?_⟩
      intro later member
      obtain ⟨other, among, holds⟩ := ih later member
      exact ⟨other, List.mem_cons_of_mem _ among, holds⟩

/-! ## Tables -/

namespace Table

/-- No two rules of a table clash. -/
def Unambiguous (table : Table) : Prop :=
  table.rules.Pairwise fun left right => left.clashesWith right = false

private theorem pairwise_of_firstClash? {rules : List Rule} (noClash : firstClash? rules = none) :
    rules.Pairwise fun left right => left.clashesWith right = false := by
  induction rules with
  | nil => exact .nil
  | cons rule rest ih =>
      unfold firstClash? at noClash
      split at noClash
      next => cases noClash
      next free =>
        refine .cons (fun other known => ?_) (ih noClash)
        simpa using List.find?_eq_none.mp free other known

private theorem find?_eq_some_of_pairwise {rules : List Rule} {rule : Rule} {path : String}
    (apart : rules.Pairwise fun left right => left.clashesWith right = false)
    (known : rule ∈ rules) (matching : rule.matchesPath path = true) :
    rules.find? (·.matchesPath path) = some rule := by
  induction apart with
  | nil => cases known
  | @cons first rest free _ ih =>
      rcases List.mem_cons.mp known with rfl | later
      · exact List.find?_cons_of_pos matching
      · have other : ¬first.matchesPath path = true := fun also =>
          absurd (Rule.clashesWith_of_matchesPath also matching) (by simp [free rule later])
        rw [List.find?_cons, Bool.eq_false_iff.mpr other]
        exact ih later

/-- The rule for a path is the rule that matches it, whatever the order of the rules. -/
theorem Unambiguous.route?_eq_some_iff {table : Table} (apart : table.Unambiguous) {path : String}
    {rule : Rule} :
    table.route? path = some rule ↔ rule ∈ table.rules ∧ rule.matchesPath path = true :=
  ⟨fun found => ⟨List.mem_of_find?_eq_some found,
      List.find?_some (p := (Rule.matchesPath · path)) found⟩,
    fun ⟨known, matching⟩ => find?_eq_some_of_pairwise apart known matching⟩

theorem ofRules_ok {rules : List Rule} {table : Table} (made : ofRules rules = .ok table) :
    table.rules = rules ∧ table.Unambiguous := by
  unfold ofRules at made
  split at made
  next => cases made
  next free =>
    injection made with same
    subst same
    exact ⟨rfl, pairwise_of_firstClash? free⟩

/-- Rules are made one after the other and then put together. -/
theorem mapM_bind_ofRules_eq_ok_iff {α : Type} {make : α → Except RouteError Rule} {items : List α}
    {table : Table} :
    items.mapM make >>= ofRules = .ok table ↔
      List.Forall₂ (fun item rule => make item = .ok rule) items table.rules ∧
        ofRules table.rules = .ok table := by
  rw [bind_eq_ok_iff]
  constructor
  · rintro ⟨rules, mapped, made⟩
    obtain ⟨rfl, -⟩ := ofRules_ok made
    exact ⟨mapM_eq_ok_iff.mp mapped, made⟩
  · rintro ⟨related, made⟩
    exact ⟨table.rules, mapM_eq_ok_iff.mpr related, made⟩

theorem singleOrigin_eq_ok_iff {prefixes : List String} {origin : String} {table : Table} :
    singleOrigin prefixes origin = .ok table ↔
      List.Forall₂ (fun pathPrefix rule => Rule.make pathPrefix origin = .ok rule) prefixes
          table.rules ∧
        ofRules table.rules = .ok table :=
  mapM_bind_ofRules_eq_ok_iff

theorem singleOrigin_rules {prefixes : List String} {origin : String} {table : Table}
    (made : singleOrigin prefixes origin = .ok table) :
    table.Unambiguous ∧
      (∀ pathPrefix ∈ prefixes, ∃ rule ∈ table.rules, Rule.make pathPrefix origin = .ok rule) ∧
      ∀ rule ∈ table.rules, ∃ pathPrefix ∈ prefixes, Rule.make pathPrefix origin = .ok rule := by
  obtain ⟨related, accepted⟩ := singleOrigin_eq_ok_iff.mp made
  have reversed := List.Forall₂.flip (R := flip _) related
  exact ⟨(ofRules_ok accepted).2, exists_mem_of_forall₂ related, exists_mem_of_forall₂ reversed⟩

theorem singleOrigin_ok {prefixes : List String} {origin : String} {table : Table}
    (made : singleOrigin prefixes origin = .ok table) :
    table.Unambiguous ∧ ∀ rule ∈ table.rules, rule.WellFormed := by
  obtain ⟨apart, -, known⟩ := singleOrigin_rules made
  refine ⟨apart, fun rule member => ?_⟩
  obtain ⟨pathPrefix, -, madeRule⟩ := known rule member
  exact Rule.make_ok madeRule

end Table

end WebviewHost.Routes
