import WebviewHost.Forward.Exchange
import WebviewHost.Http.Target
import WebviewHost.Proofs.Network.Url
import WebviewHost.Proofs.Routes.Table

/-!
# The path that is sent

A rule appends a raw path to its target and sends what a URL reader makes of the whole. The path
that arrives is the normal form of what stands behind the host, which is the raw path itself unless
the target plays tricks with backslashes or line breaks.
-/

set_option autoImplicit false

/-! ## Targets -/

namespace WebviewHost.Http

open WebviewHost.Network (IsQueryPart isBreak isMargin queryText)

/-- What a target that was read holds: no character that would end its path or its query. -/
structure Target.Readable (target : Target) : Prop where
  path : ∀ c ∈ target.path.toList, isPathChar c = true
  query : ∀ query ∈ target.query, ∀ c ∈ query.toList, isQueryChar c = true

private theorem originPath_readable {given : List Char} {path : String}
    (read : (if !given.all isPathChar then none
      else if given.isEmpty then some "/"
      else some (String.ofList given)) = some path) :
    ∀ c ∈ path.toList, isPathChar c = true := by
  split at read
  next => cases read
  next allowed =>
    split at read
    · cases read
      exact List.all_eq_true.mp rfl
    · cases read
      rw [String.toList_ofList]
      exact List.all_eq_true.mp (by simpa using allowed)

theorem originTarget?_readable {text : List Char} {target : Target}
    (read : originTarget? text = some target) : target.Readable := by
  unfold originTarget? at read
  simp only at read
  split at read
  next path query pathRead _ =>
    split at read
    next allowed =>
      cases read
      refine ⟨originPath_readable pathRead, fun asked same => ?_⟩
      cases same
      rw [String.toList_ofList]
      exact List.all_eq_true.mp allowed
    next => cases read
  next path pathRead _ =>
    cases read
    exact ⟨originPath_readable pathRead, fun _ absent => nomatch absent⟩
  next => cases read

theorem Target.parse?_readable {text : String} {target : Target}
    (read : Target.parse? text = some target) : target.Readable := by
  have star : Target.Readable ⟨"*", none⟩ :=
    ⟨List.all_eq_true.mp rfl, fun _ absent => nomatch absent⟩
  have bare : Target.Readable ⟨"", none⟩ :=
    ⟨List.all_eq_true.mp rfl, fun _ absent => nomatch absent⟩
  unfold Target.parse? at read
  split at read
  · cases read
  · split at read
    · exact originTarget?_readable read
    · cases read
      exact star
    · split at read
      · split at read
        · cases read
        · exact originTarget?_readable read
      · split at read
        · cases read
        · cases read
          exact bare

theorem isMargin_of_isPathChar {c : Char} (allowed : isPathChar c = true) : isMargin c = false := by
  simp [isPathChar] at allowed
  simp [isMargin]
  omega

theorem isMargin_of_isQueryChar {c : Char} (allowed : isQueryChar c = true) :
    isMargin c = false := by
  simp [isQueryChar] at allowed
  simp [isMargin]
  omega

theorem Target.Readable.not_mem_path {target : Target} (readable : target.Readable) {c : Char}
    (barred : isPathChar c = false) : c ∉ target.path.toList := fun known =>
  absurd (readable.path c known) (by simp [barred])

theorem Target.toList_text {target : Target} (named : target.path ≠ "") :
    target.text.toList = target.path.toList ++ queryText (target.query.map String.toList) := by
  cases asked : target.query <;> simp [Target.text, queryText, asked, named]

/-- As text, a target is its path and perhaps a query, and nothing in it is a margin of a URL. -/
theorem Target.Readable.text_eq {target : Target} (readable : target.Readable)
    (named : target.path ≠ "") :
    ∃ query, IsQueryPart query ∧ target.text.toList = target.path.toList ++ query ∧
      ∀ c ∈ target.path.toList ++ query, isMargin c = false := by
  have path : ∀ c ∈ target.path.toList, isMargin c = false := fun c known =>
    isMargin_of_isPathChar (readable.path c known)
  have text := toList_text named
  cases asked : target.query with
  | none =>
      rw [asked] at text
      exact ⟨[], .inl rfl, text, by simpa using path⟩
  | some query =>
      rw [asked] at text
      refine ⟨'?' :: query.toList, .inr ⟨_, rfl⟩, text, ?_⟩
      intro c known
      rw [List.mem_append, List.mem_cons] at known
      rcases known with inPath | rfl | inQuery
      · exact path c inPath
      · rfl
      · exact isMargin_of_isQueryChar (readable.query query asked c inQuery)

end WebviewHost.Http

/-! ## Sending -/

namespace WebviewHost.Forward

open WebviewHost.Http (Request Target isMargin_of_isPathChar isPathChar)
open WebviewHost.Network
open WebviewHost.Routes (Rule authority? authority?_eq_some not_mem_of_isAuthority)

/-- The path in a request as the server it goes to reads it. -/
def Outgoing.path (sent : Outgoing) : String :=
  String.ofList (sent.target.toList.takeWhile (· ≠ '?'))

/-- The path that arrives where a rule leads to, of a raw path under that rule. -/
def upstreamPath (rule : Rule) (path : String) : List Char :=
  normalPath (behindHost ((authority? rule.target.toList).getD [] ++ path.toList))

theorem forwardedRequest?_of_mem_sent {network : Network} {rule : Rule} {limit : Nat}
    {request : Request} {sent : Outgoing} (member : sent ∈ (forward network rule limit request).sent) :
    forwardedRequest? rule request = some sent := by
  unfold forward at member
  split at member
  · cases member
  · split at member
    · cases member
    next outgoing made =>
      split at member
      · cases member
      · rw [List.mem_singleton.mp member]
        exact made
      · rw [List.mem_singleton.mp member]
        exact made

theorem path_outgoing (url : Url) (method : String) (headers : Http.Headers) (body : ByteArray)
    {path : List Char} (known : url.path = normalPath path) :
    (outgoing url method headers body).path.toList = normalPath path := by
  unfold Outgoing.path outgoing Url.target
  rw [String.toList_ofList, String.toList_ofList, known,
    takeWhile_append_of_not_mem _ (not_mem_normalPath path)]
  cases url.query <;> simp

/-- What is sent by a rule asks for the normal form of what stands behind the host. -/
theorem path_of_mem_sent {network : Network} {rule : Rule} {limit : Nat} {request : Request}
    {sent : Outgoing} (wellFormed : rule.WellFormed) (readable : request.target.Readable)
    (under : rule.matchesPath request.target.path = true)
    (member : sent ∈ (forward network rule limit request).sent) :
    sent.path.toList = upstreamPath rule request.target.path := by
  obtain ⟨url, parsed, rfl⟩ := Option.map_eq_some_iff.mp (forwardedRequest?_of_mem_sent member)
  obtain ⟨host, isHost, valid⟩ := wellFormed.target
  obtain ⟨scheme, web, target⟩ := authority?_eq_some isHost
  obtain ⟨rest, path⟩ := wellFormed.begins under
  obtain ⟨query, part, text, unmargined⟩ :=
    readable.text_eq fun empty => by simp [empty] at path
  have whole : (rule.forwardUrl request.target.text).toList =
      scheme ++ ((host ++ request.target.path.toList) ++ query) := by
    simp [Rule.forwardUrl, target, text]
  have absent : ∀ c, c = '?' ∨ c = '#' → c ∉ host ++ request.target.path.toList := by
    intro c barred
    rw [List.mem_append, not_or]
    refine ⟨not_mem_of_isAuthority valid (.inr (barred.imp_right .inl)), ?_⟩
    rcases barred with rfl | rfl
    · exact readable.not_mem_path rfl
    · exact readable.not_mem_path rfl
  have ends : request.target.path.toList ++ query ≠ [] := by simp [path]
  -- A margin at the end would be cut off before anything is read.
  obtain ⟨last, isLast, lastKept⟩ := exists_getLast?_append host ends unmargined
  rw [← List.append_assoc] at isLast
  have sentPath : url.path = normalPath (behindHost (host ++ request.target.path.toList)) :=
    Url.path_of_parse? whole web (absent _ (.inl rfl)) (absent _ (.inr rfl)) part isLast lastKept
      parsed
  unfold upstreamPath
  rw [isHost]
  exact path_outgoing url _ _ _ sentPath

/-- The host of a rule's target is what it looks like: no backslash cuts it short, and nothing in
it is dropped. -/
def HasPlainHost (rule : Rule) : Prop :=
  ∀ c ∈ (authority? rule.target.toList).getD [], c ≠ '\\' ∧ isBreak c = false

instance (rule : Rule) : Decidable (HasPlainHost rule) := List.decidableBAll _ _

theorem upstreamPath_of_plain {rule : Rule} {target : Target} (wellFormed : rule.WellFormed)
    (plain : HasPlainHost rule) (readable : target.Readable)
    (under : rule.matchesPath target.path = true) :
    upstreamPath rule target.path = normalPath target.path.toList := by
  obtain ⟨host, isHost, valid⟩ := wellFormed.target
  obtain ⟨rest, path⟩ := wellFormed.begins under
  have undivided : ∀ c ∈ host, isSlash c = false ∧ isBreak c = false := by
    intro c known
    have slash : c ≠ '/' := fun same => not_mem_of_isAuthority valid (.inl rfl) (same ▸ known)
    obtain ⟨back, unbroken⟩ := plain c (by rw [isHost]; exact known)
    exact ⟨by simp [isSlash, slash, back], unbroken⟩
  have unbroken : ∀ c ∈ rest, isBreak c = false := fun c known =>
    isBreak_of_isMargin (isMargin_of_isPathChar
      (readable.path c (path ▸ List.mem_cons_of_mem _ known)))
  have notEmpty : host ≠ [] := by
    rintro rfl
    cases valid
  unfold upstreamPath
  rw [isHost, path, Option.getD_some, behindHost_append_slash notEmpty undivided unbroken]

/-- No prefix keeps every path: whatever the rule, a path that climbs leads out of its prefix. -/
theorem exists_outside {rule : Rule} (wellFormed : rule.WellFormed) (plain : HasPlainHost rule)
    (readable : ∀ c ∈ rule.pathPrefix.toList, isPathChar c = true) :
    ∃ target : Target, target.Readable ∧ rule.matchesPath target.path = true ∧
      ¬rule.pathPrefix.toList <+: upstreamPath rule target.path := by
  have self : rule.matchesPath rule.pathPrefix = true :=
    Rule.matchesPath_iff.mpr (List.prefix_refl _)
  obtain ⟨rest, lead⟩ := wellFormed.begins self
  let ups := climb (splitAtSlashes rest).length
  let target : Target := ⟨String.ofList (rule.pathPrefix.toList ++ ups), none⟩
  have path : target.path.toList = rule.pathPrefix.toList ++ ups := String.toList_ofList
  have under : rule.matchesPath target.path = true :=
    Rule.matchesPath_iff.mpr (path ▸ List.prefix_append _ _)
  have targetReadable : target.Readable := by
    refine ⟨fun c known => ?_, fun _ absent => nomatch absent⟩
    rw [path, List.mem_append] at known
    rcases known with inPrefix | inUps
    · exact readable c inPrefix
    · rcases mem_climb inUps with rfl | rfl <;> rfl
  refine ⟨target, targetReadable, under, ?_⟩
  rw [upstreamPath_of_plain wellFormed plain targetReadable under, path, lead,
    normalPath_climb (Nat.le_refl _)]
  -- The prefix has a character after its slash, the root has none.
  intro begins
  have nothing : rest = [] := List.prefix_nil.mp (List.cons_prefix_cons.mp begins).2
  have usable := wellFormed.pathPrefix
  rw [lead, nothing] at usable
  cases usable

end WebviewHost.Forward
