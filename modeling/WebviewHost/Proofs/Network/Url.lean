import WebviewHost.Proofs.Network.Destination
import WebviewHost.Proofs.Network.Segments

/-!
# The path of a URL

Where the path of a URL begins in its text, and that it is the normal form of what stands there.
-/

set_option autoImplicit false

namespace WebviewHost.Network

/-- What is left behind the host of a URL, of the text after its scheme and the two slashes: after
any further slashes, everything up to the next slash is the host. Tabs and line breaks do not
count. -/
def behindHost (text : List Char) : List Char :=
  ((text.filter fun c => !isBreak c).dropWhile isSlash).dropWhile fun c => !isSlash c

/-- A text that goes on after a path: not at all, or with a query. -/
def IsQueryPart (text : List Char) : Prop := text = [] ∨ ∃ query, text = '?' :: query

theorem mem_of_mem_behindHost {c : Char} {text : List Char} (known : c ∈ behindHost text) :
    c ∈ text :=
  (List.mem_filter.mp
    ((List.dropWhile_sublist _).mem ((List.dropWhile_sublist _).mem known))).1

theorem IsQueryPart.withoutBreaks {text : List Char} (part : IsQueryPart text) :
    IsQueryPart (text.filter fun c => !isBreak c) := by
  rcases part with rfl | ⟨query, rfl⟩
  · exact .inl rfl
  · exact .inr ⟨query.filter fun c => !isBreak c, rfl⟩

theorem takeWhile_append_of_not_mem {stop : Char} {text : List Char} (more : List Char)
    (absent : stop ∉ text) :
    (text ++ more).takeWhile (· ≠ stop) = text ++ more.takeWhile (· ≠ stop) :=
  List.takeWhile_append_of_pos fun _ known =>
    decide_eq_true fun same => absent (same ▸ known)

private theorem dropWhile_congr {kept dropped : Char → Bool} {text : List Char}
    (same : ∀ c ∈ text, kept c = dropped c) : text.dropWhile kept = text.dropWhile dropped := by
  induction text with
  | nil => rfl
  | cons c rest ih =>
      rw [List.dropWhile_cons, List.dropWhile_cons, same c List.mem_cons_self,
        ih fun d known => same d (List.mem_cons_of_mem _ known)]

private theorem dropWhile_append_query {ends : Char → Bool} {query : List Char}
    (text : List Char) (part : IsQueryPart query) (stops : ends '?' = false) :
    (text ++ query).dropWhile ends = text.dropWhile ends ++ query := by
  rw [List.dropWhile_append]
  split
  next gone =>
    rw [List.isEmpty_iff.mp gone, List.nil_append]
    rcases part with rfl | ⟨query, rfl⟩
    · rfl
    · exact List.dropWhile_cons_of_neg (by simp [stops])
  next => rfl

/-- What is left of the whole rest of a URL is what is left of its location, and the query. -/
private theorem behindHost_append {location query : List Char} (noQuery : '?' ∉ location)
    (noFragment : '#' ∉ location) (part : IsQueryPart query) :
    (((location ++ query).filter fun c => !isBreak c).dropWhile isSlash).dropWhile
        (fun c => !endsUrlAuthority c) =
      behindHost location ++ query.filter fun c => !isBreak c := by
  rw [List.filter_append, dropWhile_append_query _ part.withoutBreaks rfl,
    dropWhile_append_query _ part.withoutBreaks rfl]
  have same : ∀ c ∈ (location.filter fun c => !isBreak c).dropWhile isSlash,
      (!endsUrlAuthority c) = !isSlash c := by
    intro c known
    have member : c ∈ location :=
      (List.mem_filter.mp ((List.dropWhile_sublist _).mem known)).1
    have query : c ≠ '?' := fun asks => noQuery (asks ▸ member)
    have fragment : c ≠ '#' := fun marks => noFragment (marks ▸ member)
    simp [endsUrlAuthority, query, fragment]
  rw [dropWhile_congr same]
  rfl

private theorem readPath_append {path query : List Char} (noQuery : '?' ∉ path)
    (noFragment : '#' ∉ path) (part : IsQueryPart query) :
    (readPath (path ++ query)).1 = resolveSegments [] (splitAtSlashes (path.drop 1)) := by
  have whole : ((path ++ query).takeWhile (· ≠ '#')).takeWhile (· ≠ '?') = path := by
    rw [takeWhile_append_of_not_mem query noFragment, takeWhile_append_of_not_mem _ noQuery]
    rcases part with rfl | ⟨query, rfl⟩ <;> simp
  unfold readPath
  simp only [whole]

theorem Url.path_eq {url : Url} {path : List Char}
    (read : url.segments = resolveSegments [] (splitAtSlashes (path.drop 1))) :
    url.path = normalPath path := by
  unfold Url.path normalPath
  rw [read, resolveSegments_eq, List.drop_nil, List.reverse_nil, List.nil_append]

/-- The path of a URL is the normal form of what stands behind its host. -/
theorem Url.path_of_parse? {text : String} {lead location query : List Char} {last : Char}
    {url : Url} (whole : text.toList = lead ++ (location ++ query))
    (begins : lead = "http://".toList ∨ lead = "https://".toList) (noQuery : '?' ∉ location)
    (noFragment : '#' ∉ location) (part : IsQueryPart query)
    (ends : (location ++ query).getLast? = some last) (lastKept : isMargin last = false)
    (parsed : Url.parse? text = some url) :
    url.path = normalPath (behindHost location) := by
  obtain ⟨scheme, rfl⟩ := exists_lead begins
  rw [parse?_eq, whole, takeScheme?_tidy_lead scheme ends lastKept, Option.bind_some,
    Option.map_eq_some_iff] at parsed
  -- Host, port and credentials have been read, but none of them reaches into the path.
  obtain ⟨destination, -, rfl⟩ := parsed
  refine Url.path_eq ?_
  show (readPath ((((location ++ query).filter fun c => !isBreak c).dropWhile isSlash).dropWhile
    fun c => !endsUrlAuthority c)).1 = _
  rw [behindHost_append noQuery noFragment part]
  exact readPath_append (fun known => noQuery (mem_of_mem_behindHost known))
    (fun known => noFragment (mem_of_mem_behindHost known)) part.withoutBreaks

theorem behindHost_append_slash {host rest : List Char} (notEmpty : host ≠ [])
    (plain : ∀ c ∈ host, isSlash c = false ∧ isBreak c = false)
    (unbroken : ∀ c ∈ rest, isBreak c = false) :
    behindHost (host ++ '/' :: rest) = '/' :: rest := by
  have kept : (host ++ '/' :: rest).filter (fun c => !isBreak c) = host ++ '/' :: rest := by
    rw [List.filter_eq_self]
    intro c known
    rw [List.mem_append, List.mem_cons] at known
    rcases known with inHost | rfl | inRest
    · simp [plain c inHost]
    · rfl
    · simp [unbroken c inRest]
  unfold behindHost
  rw [kept, dropWhile_isSlash_of_plain notEmpty fun c known => (plain c known).1,
    List.dropWhile_append_of_pos fun c known => by simp [plain c known]]
  rfl

/-! ## Plain URLs -/

/-- A query as it stands in a URL. -/
def queryText : Option (List Char) → List Char
  | some query => '?' :: query
  | none => []

theorem Url.toList_target (url : Url) : url.target.toList = url.path ++ queryText url.query := by
  unfold target queryText
  exact String.toList_ofList

private theorem authority_of_plain {server : List Char} (notEmpty : server ≠ [])
    (plain : ∀ c ∈ server, endsUrlAuthority c = false) (rest : List Char) :
    leadingAuthority ('/' :: '/' :: (server ++ '/' :: rest)) = server ∧
      afterAuthority ('/' :: '/' :: (server ++ '/' :: rest)) = '/' :: rest := by
  have undivided : ∀ c ∈ server, isSlash c = false := by
    intro c known
    have ends := plain c known
    simp only [endsUrlAuthority, Bool.or_eq_false_iff] at ends
    exact ends.1.1
  have skipped : ('/' :: '/' :: (server ++ '/' :: rest)).dropWhile isSlash = server ++ '/' :: rest :=
    dropWhile_isSlash_of_plain notEmpty undivided _
  have goesOn : ∀ c ∈ server, (!endsUrlAuthority c) = true := by
    intro c known
    rw [plain c known]
    rfl
  unfold leadingAuthority afterAuthority
  rw [skipped, List.takeWhile_append_of_pos goesOn, List.dropWhile_append_of_pos goesOn]
  exact ⟨List.append_nil server, rfl⟩

private theorem readPath_of_plain {rest : List Char} {asked : Option (List Char)}
    (noQuery : '?' ∉ rest) (noFragment : '#' ∉ '/' :: rest ++ queryText asked) :
    readPath ('/' :: rest ++ queryText asked) =
      (resolveSegments [] (splitAtSlashes rest), asked.map (escape queryEscapes)) := by
  have apart : ∀ c ∈ '/' :: rest ++ queryText asked, decide (c ≠ '#') = true :=
    fun c known => decide_eq_true fun same => noFragment (same ▸ known)
  have fragment := List.takeWhile_eq_self_iff.mpr apart
  have inPath : ∀ c ∈ '/' :: rest, decide (c ≠ '?') = true := by
    intro c known
    refine decide_eq_true ?_
    rintro rfl
    rcases List.mem_cons.mp known with slash | inRest
    · cases slash
    · exact noQuery inRest
  have path : ('/' :: rest ++ queryText asked).takeWhile (· ≠ '?') = '/' :: rest := by
    rw [List.takeWhile_append_of_pos inPath]
    cases asked <;> simp [queryText]
  have query : ('/' :: rest ++ queryText asked).dropWhile (· ≠ '?') = queryText asked := by
    rw [List.dropWhile_append_of_pos inPath]
    cases asked <;> simp [queryText]
  unfold readPath
  simp only [fragment, path, query]
  cases asked <;> rfl

/-- A URL in which nothing hides: the authority is what stands between the slashes. -/
theorem Url.parse?_of_plain {text : String} {scheme : Scheme} {server rest : List Char}
    {asked : Option (List Char)}
    (whole : text.toList = scheme.lead ++ (server ++ ('/' :: rest ++ queryText asked)))
    (notEmpty : server ≠ [])
    (plain : ∀ c ∈ server, endsUrlAuthority c = false ∧ isBreak c = false)
    (unmargined : ∀ c ∈ '/' :: rest ++ queryText asked, isMargin c = false)
    (noQuery : '?' ∉ rest) (noFragment : '#' ∉ '/' :: rest ++ queryText asked) :
    Url.parse? text = (destinationOf? scheme server).map fun destination =>
      destination.url
        (resolveSegments [] (splitAtSlashes rest), asked.map (escape queryEscapes)) := by
  have ends : '/' :: rest ++ queryText asked ≠ [] := by simp
  obtain ⟨last, isLast, lastKept⟩ := exists_getLast?_append server ends unmargined
  have kept : (server ++ ('/' :: rest ++ queryText asked)).filter (fun c => !isBreak c) =
      server ++ ('/' :: rest ++ queryText asked) := by
    rw [List.filter_eq_self]
    intro c known
    rcases List.mem_append.mp known with inServer | behind
    · simp [plain c inServer]
    · simp [isBreak_of_isMargin (unmargined c behind)]
  obtain ⟨leading, after⟩ := authority_of_plain notEmpty (fun c known => (plain c known).1)
    (rest ++ queryText asked)
  rw [parse?_eq, whole, takeScheme?_tidy_lead scheme isLast lastKept, Option.bind_some, kept]
  rw [List.cons_append] at noFragment ⊢
  simp only [leading, after]
  rw [← List.cons_append, readPath_of_plain noQuery noFragment]

end WebviewHost.Network
