import WebviewHost.Proofs.Forward.SentPath

/-!
# Who is asked

Whether the rule alone says which server its requests go to. It does if its origin names a host at
all. An origin of nothing but backslashes, tabs and line breaks passes the checks, but in a URL it
is no host; then the prefix is read as one, and if no slash ends it there, the request goes on with
it.
-/

set_option autoImplicit false

namespace WebviewHost.Http

theorem Target.parse?_path {path : String} {rest : List Char} (begins : path.toList = '/' :: rest)
    (allowed : ∀ c ∈ path.toList, isPathChar c = true) (short : path.utf8ByteSize ≤ targetLimit) :
    Target.parse? path = some ⟨path, none⟩ := by
  have stop : ∀ c, isPathChar c = false → path.toList.takeWhile (· ≠ c) = path.toList ∧
      path.toList.dropWhile (· ≠ c) = [] := by
    intro c barred
    have apart : ∀ d ∈ path.toList, decide (d ≠ c) = true := by
      intro d known
      refine decide_eq_true fun same => ?_
      rw [← same, allowed d known] at barred
      cases barred
    exact ⟨List.takeWhile_eq_self_iff.mpr apart, List.dropWhile_eq_nil_iff.mpr apart⟩
  have named : path.isEmpty = false := by
    have : path ≠ "" := by
      rintro rfl
      cases begins
    simpa using this
  have whole : originTarget? path.toList = some ⟨path, none⟩ := by
    have kept : path.toList.all isPathChar = true := List.all_eq_true.mpr allowed
    have notEmpty : path.toList.isEmpty = false := by rw [begins]; rfl
    unfold originTarget?
    simp only [stop '#' rfl, stop '?' rfl, kept, notEmpty, String.ofList_toList]
    rfl
  unfold Target.parse?
  rw [named, if_neg (by simpa using short)]
  rw [begins] at whole ⊢
  exact whole

end WebviewHost.Http

namespace WebviewHost.Forward

open WebviewHost.Http (Request Target isMargin_of_isPathChar isPathChar targetLimit)
open WebviewHost.Network
open WebviewHost.Routes (Rule authority? authority?_eq_some not_mem_of_isAuthority)

/-- Where a request for a target is to go by a rule, if it can be sent at all. -/
def destination? (rule : Rule) (target : Target) : Option Destination :=
  (Url.parse? (rule.forwardUrl target.text)).map Url.destination

/-- All requests that a rule is for go to the same destination, or none of them can be sent. -/
def FixesDestination (rule : Rule) : Prop :=
  ∀ (left right : Request) (leftText rightText : String),
    Target.parse? leftText = some left.target → Target.parse? rightText = some right.target →
    rule.matchesPath left.target.path = true → rule.matchesPath right.target.path = true →
    destination? rule left.target = destination? rule right.target

/-- Something in the origin of a rule is there to be a host: a character that neither counts as a
slash nor is dropped. -/
def NamesHost (rule : Rule) : Prop :=
  ∃ c ∈ (authority? rule.target.toList).getD [], isSlash c = false ∧ isBreak c = false

instance (rule : Rule) : Decidable (NamesHost rule) := List.decidableBEx _ _

/-- Behind its leading slashes, the prefix of a rule has a slash that would end a host. -/
def ClosesHost (rule : Rule) : Prop :=
  ∃ c ∈ rule.pathPrefix.toList.dropWhile isSlash, isSlash c = true

instance (rule : Rule) : Decidable (ClosesHost rule) := List.decidableBEx _ _

private theorem origin_eq {rule : Rule} (wellFormed : rule.WellFormed) :
    ∃ (scheme : Scheme) (host : List Char), authority? rule.target.toList = some host ∧
      rule.target.toList = scheme.lead ++ host := by
  obtain ⟨host, isHost, -⟩ := wellFormed.target
  obtain ⟨lead, web, origin⟩ := authority?_eq_some isHost
  obtain ⟨scheme, rfl⟩ := exists_lead web
  exact ⟨scheme, host, isHost, origin⟩

private theorem destination?_eq {rule : Rule} {scheme : Scheme} {host : List Char}
    (origin : rule.target.toList = scheme.lead ++ host) {target : Target}
    (readable : target.Readable) (named : target.path ≠ "") :
    ∃ query, target.text.toList = target.path.toList ++ query ∧
      destination? rule target = destinationOf? scheme
        (leadingAuthority ((host ++ (target.path.toList ++ query)).filter fun c => !isBreak c)) := by
  obtain ⟨query, -, text, unmargined⟩ := readable.text_eq named
  have whole : (rule.forwardUrl target.text).toList =
      scheme.lead ++ (host ++ (target.path.toList ++ query)) := by
    simp [Rule.forwardUrl, origin, text]
  have ends : target.path.toList ++ query ≠ [] := by simp [named]
  obtain ⟨last, isLast, lastKept⟩ := exists_getLast?_append host ends unmargined
  refine ⟨query, text, ?_⟩
  unfold destination?
  rw [Url.parse?_eq, whole, takeScheme?_tidy_lead scheme isLast lastKept, Option.bind_some,
    Option.map_map]
  exact congrFun Option.map_id _

private theorem isSlash_of_not_namesHost {rule : Rule} {host : List Char}
    (isHost : authority? rule.target.toList = some host) (unnamed : ¬NamesHost rule) :
    ∀ c ∈ host.filter fun c => !isBreak c, isSlash c = true := by
  intro c known
  obtain ⟨member, kept⟩ := List.mem_filter.mp known
  cases slash : isSlash c with
  | true => rfl
  | false =>
      refine absurd ⟨c, ?_, slash, by simpa using kept⟩ unnamed
      rw [isHost]
      exact member

private theorem closed_of_namesHost {rule : Rule} {host : List Char}
    (isHost : authority? rule.target.toList = some host) (slash : '/' ∈ rule.pathPrefix.toList)
    (unbroken : ∀ c ∈ rule.pathPrefix.toList, isBreak c = false)
    (decides : NamesHost rule ∨ ClosesHost rule) :
    ∃ c ∈ ((host ++ rule.pathPrefix.toList).filter fun c => !isBreak c).dropWhile isSlash,
      isSlash c = true := by
  have kept : rule.pathPrefix.toList.filter (fun c => !isBreak c) = rule.pathPrefix.toList := by
    rw [List.filter_eq_self]
    intro c known
    simp [unbroken c known]
  rw [List.filter_append, kept]
  by_cases names : NamesHost rule
  · obtain ⟨c, known, other, unbroken⟩ := names
    rw [isHost] at known
    have remains : (host.filter fun c => !isBreak c).dropWhile isSlash ≠ [] := by
      intro gone
      have member : c ∈ host.filter fun c => !isBreak c :=
        List.mem_filter.mpr ⟨known, by simp [unbroken]⟩
      have also := List.dropWhile_eq_nil_iff.mp gone c member
      simp [other] at also
    rw [List.dropWhile_append, if_neg (by simpa using remains)]
    exact ⟨'/', List.mem_append_right _ slash, rfl⟩
  · obtain ⟨c, known, also⟩ := decides.resolve_left names
    rw [List.dropWhile_append_of_pos (isSlash_of_not_namesHost isHost names)]
    exact ⟨c, known, also⟩

private theorem isBreak_of_allowed {text : List Char}
    (allowed : ∀ c ∈ text, isPathChar c = true) : ∀ c ∈ text, isBreak c = false :=
  fun c known => isBreak_of_isMargin (isMargin_of_isPathChar (allowed c known))

theorem destination?_of_namesHost {rule : Rule} (wellFormed : rule.WellFormed)
    (decides : NamesHost rule ∨ ClosesHost rule) :
    ∃ known, ∀ target : Target, target.Readable → rule.matchesPath target.path = true →
      destination? rule target = known := by
  obtain ⟨scheme, host, isHost, origin⟩ := origin_eq wellFormed
  refine ⟨destinationOf? scheme (leadingAuthority
    ((host ++ rule.pathPrefix.toList).filter fun c => !isBreak c)), ?_⟩
  intro target readable under
  obtain ⟨after, path⟩ := Rule.matchesPath_iff.mp under
  obtain ⟨rest, begins⟩ := wellFormed.begins under
  have self : rule.matchesPath rule.pathPrefix = true :=
    Rule.matchesPath_iff.mpr (List.prefix_refl _)
  obtain ⟨lead, shape⟩ := wellFormed.begins self
  have unbroken : ∀ c ∈ rule.pathPrefix.toList, isBreak c = false :=
    isBreak_of_allowed fun c known => readable.path c (path ▸ List.mem_append_left _ known)
  have closed := closed_of_namesHost isHost (shape ▸ List.mem_cons_self) unbroken decides
  obtain ⟨query, -, read⟩ := destination?_eq origin readable fun empty => by simp [empty] at begins
  rw [read, ← path, List.append_assoc, ← List.append_assoc host, List.filter_append,
    leadingAuthority_append closed]

/-- The path of a request that goes on with a prefix: as credentials, and then a host. -/
private def onward (rule : Rule) (letter : Char) : String :=
  rule.pathPrefix ++ String.ofList ['@', letter]

private theorem toList_onward (rule : Rule) (letter : Char) :
    (onward rule letter).toList = rule.pathPrefix.toList ++ ['@', letter] := by
  simp [onward]

private theorem onward_allowed {rule : Rule} {letter : Char}
    (allowed : ∀ c ∈ rule.pathPrefix.toList, isPathChar c = true)
    (among : letter = 'a' ∨ letter = 'b') :
    ∀ c ∈ (onward rule letter).toList, isPathChar c = true := by
  intro c known
  rw [toList_onward, List.mem_append] at known
  rcases known with inPrefix | added
  · exact allowed c inPrefix
  · rcases List.mem_cons.mp added with rfl | added
    · rfl
    · rw [List.mem_singleton.mp added]
      rcases among with rfl | rfl <;> rfl

/-- A prefix that is read as the beginning of a host leaves the host to the request. -/
private theorem host_destination?_onward {rule : Rule} (wellFormed : rule.WellFormed)
    (unnamed : ¬NamesHost rule) (unclosed : ¬ClosesHost rule)
    (allowed : ∀ c ∈ rule.pathPrefix.toList, isPathChar c = true) {letter : Char}
    (among : letter = 'a' ∨ letter = 'b') :
    (destination? rule ⟨onward rule letter, none⟩).map Destination.host = host? [letter] := by
  obtain ⟨scheme, host, isHost, origin⟩ := origin_eq wellFormed
  have all := onward_allowed allowed among
  have readable : Target.Readable ⟨onward rule letter, none⟩ :=
    ⟨all, fun _ absent => nomatch absent⟩
  have named : onward rule letter ≠ "" := by
    intro empty
    have path := toList_onward rule letter
    simp [empty] at path
  obtain ⟨query, text, read⟩ := destination?_eq origin readable named
  have nothing : query = [] := by
    simpa [Target.text, named] using text
  have kept : (onward rule letter).toList.filter (fun c => !isBreak c) =
      (onward rule letter).toList := by
    rw [List.filter_eq_self]
    intro c known
    simp [isBreak_of_allowed all c known]
  -- All of the origin and the leading slashes are skipped; of the rest nothing ends an authority.
  have skipped : leadingAuthority ((onward rule letter).toList) =
      rule.pathPrefix.toList.dropWhile isSlash ++ ['@', letter] := by
    have dropped : (onward rule letter).toList.dropWhile isSlash =
        rule.pathPrefix.toList.dropWhile isSlash ++ ['@', letter] := by
      rw [toList_onward, List.dropWhile_append]
      split
      next gone =>
        rw [List.isEmpty_iff.mp gone]
        rfl
      next => rfl
    unfold leadingAuthority
    rw [dropped, List.takeWhile_eq_self_iff]
    intro c known
    rw [← dropped] at known
    have member : c ∈ (onward rule letter).toList := (List.dropWhile_sublist _).mem known
    have noSlash : isSlash c = false := by
      rw [dropped, List.mem_append] at known
      rcases known with inPrefix | added
      · exact Bool.eq_false_iff.mpr fun slash => unclosed ⟨c, inPrefix, slash⟩
      · rcases List.mem_cons.mp added with rfl | added
        · rfl
        · rw [List.mem_singleton.mp added]
          rcases among with rfl | rfl <;> rfl
    have noMark : c ≠ '?' ∧ c ≠ '#' := by
      constructor
      · rintro rfl
        cases all _ member
      · rintro rfl
        cases all _ member
    simp [endsUrlAuthority, noSlash, noMark]
  rw [read, nothing, List.append_nil, List.filter_append, kept,
    leadingAuthority_of_slashes (isSlash_of_not_namesHost isHost unnamed), skipped]
  exact host_destinationOf?_at scheme _ (by rcases among with rfl | rfl <;> decide)

theorem not_fixesDestination {rule : Rule} (wellFormed : rule.WellFormed)
    (unnamed : ¬NamesHost rule) (unclosed : ¬ClosesHost rule)
    (allowed : ∀ c ∈ rule.pathPrefix.toList, isPathChar c = true)
    (room : rule.pathPrefix.utf8ByteSize + 2 ≤ targetLimit) : ¬FixesDestination rule := by
  intro fixed
  have self : rule.matchesPath rule.pathPrefix = true :=
    Rule.matchesPath_iff.mpr (List.prefix_refl _)
  obtain ⟨rest, shape⟩ := wellFormed.begins self
  have read : ∀ letter, letter = 'a' ∨ letter = 'b' →
      Target.parse? (onward rule letter) = some ⟨onward rule letter, none⟩ := by
    intro letter among
    have size : (onward rule letter).utf8ByteSize = rule.pathPrefix.utf8ByteSize + 2 := by
      have ending : (String.ofList ['@', letter]).utf8ByteSize = 2 := by
        rcases among with rfl | rfl <;> rfl
      rw [onward, String.utf8ByteSize_append, ending]
    have begins : (onward rule letter).toList = '/' :: (rest ++ ['@', letter]) := by
      rw [toList_onward, shape, List.cons_append]
    exact Target.parse?_path begins (onward_allowed allowed among) (size ▸ room)
  have under : ∀ letter, rule.matchesPath (onward rule letter) = true := by
    intro letter
    rw [Rule.matchesPath_iff, toList_onward]
    exact List.prefix_append _ _
  have same := fixed ⟨"GET", ⟨onward rule 'a', none⟩, [], .empty⟩
    ⟨"GET", ⟨onward rule 'b', none⟩, [], .empty⟩ _ _ (read 'a' (.inl rfl)) (read 'b' (.inr rfl))
    (under 'a') (under 'b')
  have hosts := congrArg (Option.map Destination.host) same
  rw [host_destination?_onward wellFormed unnamed unclosed allowed (.inl rfl),
    host_destination?_onward wellFormed unnamed unclosed allowed (.inr rfl)] at hosts
  exact absurd hosts (by decide)

/-- A rule sends its requests to one destination if its origin names a host or its prefix ends
one, and then everything that is sent goes there; otherwise requests can name different hosts, if a
target may hold the prefix and two characters more. -/
theorem fixesDestination_iff {pathPrefix origin : String} {rule : Rule}
    (made : Rule.make pathPrefix origin = .ok rule) :
    (NamesHost rule ∨ ClosesHost rule → FixesDestination rule) ∧
      ((∀ c ∈ rule.pathPrefix.toList, isPathChar c = true) →
        rule.pathPrefix.utf8ByteSize + 2 ≤ targetLimit →
        (FixesDestination rule ↔ NamesHost rule ∨ ClosesHost rule)) ∧
      ∀ (network : Network) (limit : Nat) (request : Request),
        ∀ sent ∈ (forward network rule limit request).sent,
          ∃ destination path, destination? rule request.target = some destination ∧
            sent = outgoing (destination.url path) request.method
              (passedHeaders request.headers) request.body := by
  have wellFormed := Rule.make_ok made
  have fixed : NamesHost rule ∨ ClosesHost rule → FixesDestination rule := by
    intro decides left right leftText rightText leftRead rightRead leftUnder rightUnder
    obtain ⟨known, all⟩ := destination?_of_namesHost wellFormed decides
    rw [all _ (Target.parse?_readable leftRead) leftUnder,
      all _ (Target.parse?_readable rightRead) rightUnder]
  refine ⟨fixed, ?_, ?_⟩
  · intro allowed room
    refine ⟨fun same => ?_, fixed⟩
    by_cases decides : NamesHost rule ∨ ClosesHost rule
    · exact decides
    · rw [not_or] at decides
      exact absurd same (not_fixesDestination wellFormed decides.1 decides.2 allowed room)
  · intro network limit request sent member
    obtain ⟨url, parsed, rfl⟩ := Option.map_eq_some_iff.mp (forwardedRequest?_of_mem_sent member)
    exact ⟨url.destination, (url.segments, url.query), by rw [destination?, parsed]; rfl, rfl⟩

/-- An origin with a host decides, also for a request that names another host itself. -/
theorem fixesDestination_localhost :
    let rule : Rule := ⟨"/kitsu", "http://localhost:8000"⟩
    let target : Target := ⟨"/kitsu@elsewhere/edge", some "to=//there"⟩
    Rule.make "/kitsu" "http://localhost:8000/" = .ok rule ∧ NamesHost rule ∧
      Target.parse? "http://elsewhere:99/kitsu@elsewhere/edge?to=//there" = some target ∧
      destination? rule target = some ⟨.http, [], none, .name "localhost", some 8000⟩ ∧
      FixesDestination rule := by
  intro rule target
  have made : Rule.make "/kitsu" "http://localhost:8000/" = .ok rule := rfl
  have names : NamesHost rule := by decide
  exact ⟨made, names, by decide, by decide, (fixesDestination_iff made).1 (.inl names)⟩

/-- An origin of one backslash is accepted, and the requests decide: the first part of the path is
read as the host. -/
theorem not_fixesDestination_backslash :
    let rule : Rule := ⟨"/kitsu", "http://\\"⟩
    let left : Target := ⟨"/kitsu.a/x", none⟩
    let right : Target := ⟨"/kitsu.b/x", none⟩
    Rule.make "/kitsu" "http://\\" = .ok rule ∧
      Target.parse? "/kitsu.a/x" = some left ∧ Target.parse? "/kitsu.b/x" = some right ∧
      rule.matchesPath left.path = true ∧ rule.matchesPath right.path = true ∧
      destination? rule left = some ⟨.http, [], none, .name "kitsu.a", none⟩ ∧
      destination? rule right = some ⟨.http, [], none, .name "kitsu.b", none⟩ ∧
      ¬FixesDestination rule := by
  intro rule left right
  have leftRead : Target.parse? "/kitsu.a/x" = some left := by decide
  have rightRead : Target.parse? "/kitsu.b/x" = some right := by decide
  have leftUnder : rule.matchesPath left.path = true := by decide
  have rightUnder : rule.matchesPath right.path = true := by decide
  have leftTo : destination? rule left = some ⟨.http, [], none, .name "kitsu.a", none⟩ := by
    decide
  have rightTo : destination? rule right = some ⟨.http, [], none, .name "kitsu.b", none⟩ := by
    decide
  refine ⟨rfl, leftRead, rightRead, leftUnder, rightUnder, leftTo, rightTo, fun fixed => ?_⟩
  have same := fixed ⟨"GET", left, [], .empty⟩ ⟨"GET", right, [], .empty⟩ _ _ leftRead rightRead
    leftUnder rightUnder
  rw [leftTo, rightTo] at same
  exact absurd same (by decide)

end WebviewHost.Forward
