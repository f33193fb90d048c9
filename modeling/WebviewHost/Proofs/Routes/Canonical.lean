import Mathlib.Data.List.Basic
import WebviewHost.Proofs.Routes.Table

/-!
# Rules in their written form

The target of a rule is a bare origin, and an origin is accepted exactly if it is a bare origin or
one with a slash behind it. So a table is made again by the prefixes and targets of its own rules,
and a URL that a rule makes comes apart into target and path in one way only.
-/

set_option autoImplicit false

namespace WebviewHost.Routes

/-! ## Origins -/

/-- What stands behind the scheme of an origin: a text that is not empty and has no character at
which a URL reader would end it. -/
structure Authority (text : String) : Prop where
  named : text ≠ ""
  unended : ∀ c ∈ text.toList, c ≠ '/' ∧ c ≠ '?' ∧ c ≠ '#' ∧ c ≠ ' '

/-- A scheme and an authority, and nothing behind them. -/
inductive BareOrigin : String → Prop where
  | plain {authority : String} : Authority authority → BareOrigin ("http://" ++ authority)
  | secure {authority : String} : Authority authority → BareOrigin ("https://" ++ authority)

section Origins

variable {origin target : String} {text bare host : List Char}

theorem isAuthority_iff {authority : String} :
    isAuthority authority.toList = true ↔ Authority authority := by
  have named : (!authority.toList.isEmpty) = true ↔ authority ≠ "" := by simp
  have unended : ∀ c : Char, (c != '/' && c != '?' && c != '#' && c != ' ') = true ↔
      c ≠ '/' ∧ c ≠ '?' ∧ c ≠ '#' ∧ c ≠ ' ' := by
    intro c
    simp [and_assoc]
  unfold isAuthority
  rw [Bool.and_eq_true_iff, List.all_eq_true, named]
  simp only [unended]
  exact ⟨fun valid => ⟨valid.1, valid.2⟩, fun valid => ⟨valid.named, valid.unended⟩⟩

/-- The slashes of the scheme are not at the end, since the authority is not empty. -/
theorem Authority.getLast?_ne {authority : String} (valid : Authority authority) (scheme : String) :
    (scheme ++ authority).toList.getLast? ≠ some '/' := by
  intro ends
  have notEmpty : authority.toList ≠ [] := fun empty =>
    valid.named (String.toList_eq_nil_iff.mp empty)
  rw [String.toList_append, List.getLast?_append_of_ne_nil _ notEmpty] at ends
  exact (valid.unended '/' (List.mem_of_getLast? ends)).1 rfl

theorem stripPrefix?_append (lead rest : List Char) :
    stripPrefix? lead (lead ++ rest) = some rest := by
  induction lead with
  | nil => rfl
  | cons c lead ih => simpa [stripPrefix?] using ih

theorem authority?_plain (host : List Char) : authority? ("http://".toList ++ host) = some host := by
  unfold authority?
  rw [stripPrefix?_append, Option.some_or]

theorem authority?_secure (host : List Char) :
    authority? ("https://".toList ++ host) = some host := by
  -- The fifth character tells the two schemes apart.
  have other : stripPrefix? "http://".toList ("https://".toList ++ host) = none := rfl
  unfold authority?
  rw [other, Option.none_or, stripPrefix?_append]

theorem authority?_append (isHost : authority? text = some host) (rest : List Char) :
    authority? (text ++ rest) = some (host ++ rest) := by
  obtain ⟨scheme, rfl | rfl, rfl⟩ := authority?_eq_some isHost
  · rw [List.append_assoc, authority?_plain]
  · rw [List.append_assoc, authority?_secure]

theorem bareOrigin_iff :
    BareOrigin origin ↔ ∃ host, authority? origin.toList = some host ∧ isAuthority host = true := by
  constructor
  · intro shape
    cases shape with
    | plain authority =>
        refine ⟨_, ?_, isAuthority_iff.mpr authority⟩
        rw [String.toList_append, authority?_plain]
    | secure authority =>
        refine ⟨_, ?_, isAuthority_iff.mpr authority⟩
        rw [String.toList_append, authority?_secure]
  · rintro ⟨host, isHost, valid⟩
    have authority : Authority (String.ofList host) := by
      rw [← isAuthority_iff, String.toList_ofList]
      exact valid
    obtain ⟨scheme, rfl | rfl, whole⟩ := authority?_eq_some isHost
    · have same : origin = "http://" ++ String.ofList host := String.ext (by simpa using whole)
      exact same ▸ .plain authority
    · have same : origin = "https://" ++ String.ofList host := String.ext (by simpa using whole)
      exact same ▸ .secure authority

theorem BareOrigin.getLast?_ne (shape : BareOrigin origin) : origin.toList.getLast? ≠ some '/' := by
  cases shape with
  | plain authority => exact authority.getLast?_ne _
  | secure authority => exact authority.getLast?_ne _

theorem dropTrailingSlash_eq_iff (unslashed : bare.getLast? ≠ some '/') :
    dropTrailingSlash text = bare ↔ text = bare ∨ text = bare ++ ['/'] := by
  unfold dropTrailingSlash
  by_cases ends : text.getLast? = some '/'
  · obtain ⟨front, rfl⟩ := List.getLast?_eq_some_iff.mp ends
    rw [if_pos ends, List.dropLast_concat, List.append_left_inj]
    exact ⟨.inr, fun either => either.resolve_left fun same => unslashed (same ▸ ends)⟩
  · rw [if_neg ends]
    refine ⟨.inl, fun either => either.resolve_right fun same => ends ?_⟩
    rw [same, List.getLast?_concat]

theorem BareOrigin.dropTrailingSlash_eq_iff (shape : BareOrigin target) :
    dropTrailingSlash origin.toList = target.toList ↔ origin = target ∨ origin = target ++ "/" := by
  have slash : (target ++ "/").toList = target.toList ++ ['/'] := String.toList_append
  rw [Routes.dropTrailingSlash_eq_iff shape.getLast?_ne, ← slash, String.toList_inj,
    String.toList_inj]

/-- An origin is accepted exactly if it is its own target, or its target and a slash. -/
theorem targetOfOrigin?_eq_some_iff :
    targetOfOrigin? origin.toList = some target.toList ↔
      BareOrigin target ∧ (origin = target ∨ origin = target ++ "/") := by
  constructor
  · intro found
    obtain ⟨same, known⟩ := targetOfOrigin?_eq_some found
    have shape := bareOrigin_iff.mpr known
    exact ⟨shape, shape.dropTrailingSlash_eq_iff.mp same.symm⟩
  · rintro ⟨shape, spelled⟩
    have valid : (authority? target.toList).any isAuthority = true :=
      (Option.any_eq_true _ _).mpr (bareOrigin_iff.mp shape)
    unfold targetOfOrigin?
    simp only [shape.dropTrailingSlash_eq_iff.mpr spelled, valid, if_true]

theorem targetOfOrigin?_append_slash (unslashed : origin.toList.getLast? ≠ some '/') :
    targetOfOrigin? (origin ++ "/").toList = targetOfOrigin? origin.toList := by
  have appended : dropTrailingSlash (origin ++ "/").toList = origin.toList :=
    (dropTrailingSlash_eq_iff unslashed).mpr (.inr String.toList_append)
  have alone : dropTrailingSlash origin.toList = origin.toList :=
    (dropTrailingSlash_eq_iff unslashed).mpr (.inl rfl)
  unfold targetOfOrigin?
  rw [appended, alone]

/-- Where each of two authorities has a path behind it, the first slash is where it ends. -/
theorem authority_of_append_path {left right leftPath rightPath : List Char}
    (leftPlain : '/' ∉ left) (rightPlain : '/' ∉ right)
    (same : left ++ '/' :: leftPath = right ++ '/' :: rightPath) : left = right := by
  have upToSlash : ∀ {host path : List Char}, '/' ∉ host →
      (host ++ '/' :: path).takeWhile (· ≠ '/') = host := by
    intro host path plain
    have inside : ∀ c ∈ host, decide (c ≠ '/') = true := fun c known =>
      decide_eq_true fun slash => plain (slash ▸ known)
    rw [List.takeWhile_append_of_pos inside]
    simp
  rw [← upToSlash leftPlain, same, upToSlash rightPlain]

end Origins

/-! ## Rules -/

namespace Rule

/-- A rule that was made of some prefix and some origin. -/
def Made (rule : Rule) : Prop :=
  ∃ pathPrefix origin, make pathPrefix origin = .ok rule

variable {rule left right : Rule} {pathPrefix origin : String}

theorem Made.wellFormed (made : rule.Made) : rule.WellFormed := by
  obtain ⟨pathPrefix, origin, made⟩ := made
  exact make_ok made

theorem Made.bareOrigin (made : rule.Made) : BareOrigin rule.target :=
  bareOrigin_iff.mpr made.wellFormed.target

theorem make_append_slash_iff (unslashed : origin.toList.getLast? ≠ some '/') :
    make pathPrefix (origin ++ "/") = .ok rule ↔ make pathPrefix origin = .ok rule := by
  rw [make_eq_ok_iff, make_eq_ok_iff, targetOfOrigin?_append_slash unslashed]

/-- The origin that a rule was made of can be replaced by its target, also for other prefixes. -/
theorem make_target_iff (made : make pathPrefix origin = .ok rule) {other : String} {another : Rule} :
    make other rule.target = .ok another ↔ make other origin = .ok another := by
  obtain ⟨shape, rfl | spelled⟩ := targetOfOrigin?_eq_some_iff.mp (make_eq made).2
  · exact Iff.rfl
  · rw [spelled, make_append_slash_iff shape.getLast?_ne]

theorem Made.remade (made : rule.Made) : make rule.pathPrefix rule.target = .ok rule := by
  obtain ⟨pathPrefix, origin, made⟩ := made
  rw [(make_eq made).1]
  exact (make_target_iff made).mpr made

theorem Made.forwardUrl_inj (leftMade : left.Made) (rightMade : right.Made)
    {leftPath rightPath : String} (leftMatches : left.matchesPath leftPath = true)
    (rightMatches : right.matchesPath rightPath = true)
    (same : left.forwardUrl leftPath = right.forwardUrl rightPath) :
    left.target = right.target ∧ leftPath = rightPath := by
  obtain ⟨leftHost, leftTarget, leftValid⟩ := leftMade.wellFormed.target
  obtain ⟨rightHost, rightTarget, rightValid⟩ := rightMade.wellFormed.target
  obtain ⟨leftRest, leftText⟩ := leftMade.wellFormed.begins leftMatches
  obtain ⟨rightRest, rightText⟩ := rightMade.wellFormed.begins rightMatches
  have whole : left.target.toList ++ leftPath.toList = right.target.toList ++ rightPath.toList := by
    rw [← String.toList_append, ← String.toList_append]
    exact congrArg String.toList same
  -- The schemes are taken off both sides at once, whichever they are.
  have behind : leftHost ++ leftPath.toList = rightHost ++ rightPath.toList := by
    have leftBehind := authority?_append leftTarget leftPath.toList
    rw [whole, authority?_append rightTarget] at leftBehind
    exact (Option.some.inj leftBehind).symm
  have hosts : leftHost = rightHost := by
    rw [leftText, rightText] at behind
    exact authority_of_append_path (not_mem_of_isAuthority leftValid (.inl rfl))
      (not_mem_of_isAuthority rightValid (.inl rfl)) behind
  rw [hosts] at behind
  have paths : leftPath = rightPath := String.ext (List.append_cancel_left behind)
  rw [paths] at whole
  exact ⟨String.ext (List.append_cancel_right whole), paths⟩

end Rule

/-! ## Tables -/

namespace Table

/-- The rules of a table as they are written down. -/
def pairs (table : Table) : List (String × String) :=
  table.rules.map fun rule => (rule.pathPrefix, rule.target)

/-- A table of rules that are written down. Every rule is made before clashes are looked for. -/
def ofPairs (pairs : List (String × String)) : Except RouteError Table := do
  ofRules (← pairs.mapM fun (pathPrefix, origin) => Rule.make pathPrefix origin)

/-- The ways to a table: prefixes that share an origin, or rules that were made one by one. -/
inductive Built : Table → Prop where
  | singleOrigin {prefixes : List String} {origin : String} {table : Table} :
      Table.singleOrigin prefixes origin = .ok table → Built table
  | ofRules {rules : List Rule} {table : Table} :
      (∀ rule ∈ rules, rule.Made) → Table.ofRules rules = .ok table → Built table

variable {table : Table} {prefixes : List String} {origin : String}

theorem Built.made (built : table.Built) : ∀ rule ∈ table.rules, rule.Made := by
  intro rule member
  cases built with
  | singleOrigin accepted =>
      obtain ⟨-, -, known⟩ := singleOrigin_rules accepted
      obtain ⟨pathPrefix, -, made⟩ := known rule member
      exact ⟨pathPrefix, _, made⟩
  | ofRules rulesMade accepted =>
      rw [(ofRules_ok accepted).1] at member
      exact rulesMade rule member

theorem Built.ofRules_rules (built : table.Built) : Table.ofRules table.rules = .ok table := by
  cases built with
  | singleOrigin accepted => exact (singleOrigin_eq_ok_iff.mp accepted).2
  | ofRules _ accepted =>
      rw [(ofRules_ok accepted).1]
      exact accepted

theorem ofPairs_pairs (built : table.Built) : ofPairs table.pairs = .ok table := by
  unfold ofPairs pairs
  refine mapM_bind_ofRules_eq_ok_iff.mpr ⟨?_, built.ofRules_rules⟩
  rw [List.forall₂_map_left_iff, List.forall₂_same]
  exact fun rule member => (built.made rule member).remade

/-- Origins that make the same rules make the same tables. -/
theorem singleOrigin_congr {other : String}
    (same : ∀ {pathPrefix : String} {rule : Rule},
      Rule.make pathPrefix other = .ok rule ↔ Rule.make pathPrefix origin = .ok rule) :
    singleOrigin prefixes other = .ok table ↔ singleOrigin prefixes origin = .ok table := by
  rw [singleOrigin_eq_ok_iff, singleOrigin_eq_ok_iff]
  simp only [same]

end Table

/-- Rules and tables are determined by their written form, and determine it. -/
structure Canonical : Prop where
  accepted : ∀ pathPrefix : String, isPathPrefix pathPrefix.toList = true →
    ∀ origin target : String, Rule.make pathPrefix origin = .ok ⟨pathPrefix, target⟩ ↔
      BareOrigin target ∧ (origin = target ∨ origin = target ++ "/")
  slash : ∀ origin : String, origin.toList.getLast? ≠ some '/' →
    (∀ pathPrefix rule,
      Rule.make pathPrefix (origin ++ "/") = .ok rule ↔ Rule.make pathPrefix origin = .ok rule) ∧
    ∀ prefixes table, Table.singleOrigin prefixes (origin ++ "/") = .ok table ↔
      Table.singleOrigin prefixes origin = .ok table
  target : ∀ rule : Rule, rule.Made → BareOrigin rule.target
  split : ∀ left right : Rule, left.Made → right.Made → ∀ leftPath rightPath : String,
    left.matchesPath leftPath = true → right.matchesPath rightPath = true →
    left.forwardUrl leftPath = right.forwardUrl rightPath →
    left.target = right.target ∧ leftPath = rightPath
  made : ∀ table : Table, table.Built → ∀ rule ∈ table.rules, rule.Made
  remade : ∀ table : Table, table.Built → Table.ofPairs table.pairs = .ok table
  remadeAtTarget : ∀ prefixes origin table, Table.singleOrigin prefixes origin = .ok table →
    ∀ rule ∈ table.rules, Table.singleOrigin prefixes rule.target = .ok table

/-- Every table is made again by its own rules as they are written, and no two of their URLs agree
unless target and path do. -/
theorem rules_canonical : Canonical := by
  constructor
  case accepted =>
    intro pathPrefix usable origin target
    rw [Rule.make_eq_ok_iff, targetOfOrigin?_eq_some_iff]
    exact ⟨fun made => made.2.2, fun spelled => ⟨rfl, usable, spelled⟩⟩
  case slash =>
    intro origin unslashed
    exact ⟨fun pathPrefix rule => Rule.make_append_slash_iff unslashed,
      fun prefixes table => Table.singleOrigin_congr (Rule.make_append_slash_iff unslashed)⟩
  case target => exact fun rule made => made.bareOrigin
  case split =>
    intro left right leftMade rightMade leftPath rightPath leftMatches rightMatches same
    exact leftMade.forwardUrl_inj rightMade leftMatches rightMatches same
  case made => exact fun table built => built.made
  case remade => exact fun table built => Table.ofPairs_pairs built
  case remadeAtTarget =>
    intro prefixes origin table accepted rule member
    obtain ⟨-, -, known⟩ := Table.singleOrigin_rules accepted
    obtain ⟨pathPrefix, -, made⟩ := known rule member
    exact (Table.singleOrigin_congr (Rule.make_target_iff made)).mpr accepted

/-- A scheme keeps its own slashes: what is left without a trailing one has no authority. -/
example :
    Rule.make "/kitsu" "https://[::1]:8443/" = .ok ⟨"/kitsu", "https://[::1]:8443"⟩ ∧
      Rule.make "/kitsu" "http:///" = .error (.invalidOrigin "http:///") :=
  ⟨rfl, rfl⟩

example : Table.ofPairs Table.development.pairs = .ok Table.development := rfl

end WebviewHost.Routes
