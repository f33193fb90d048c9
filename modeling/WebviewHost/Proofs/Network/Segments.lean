import WebviewHost.Network.Url
import WebviewHost.Proofs.Files.Path

/-!
# The normal form of a path

What resolving the segments of a path comes to, said without going along them: a double dot takes
back the nearest segment before it that is not taken back already, single dots are nothing, and
what remains is escaped. A path without dots keeps all of its segments, and its beginning as far as
nothing in it has to be escaped; a path that climbs often enough keeps nothing.
-/

set_option autoImplicit false

namespace WebviewHost.Network

open WebviewHost.Files (splitAt splitAt_append_cons splitAt_cons_of_ne splitAt_cons_self
  splitAt_ne_nil)

/-! ## Spellings of dots -/

/-- The ways to write a dot in a segment. -/
def dotSpellings : List (List Char) := [".".toList, "%2e".toList, "%2E".toList]

/-- A segment that stands for the place it is at, in one of its spellings. -/
def stepsAside (segment : List Char) : Bool := dotSpellings.contains segment

/-- A segment that stands for the place above, in one of its spellings. -/
def stepsUp (segment : List Char) : Bool :=
  dotSpellings.any fun first => dotSpellings.any fun last => segment = first ++ last

private theorem plainDots_eq_nil_iff {segment : List Char} :
    plainDots segment = [] ↔ segment = [] := by
  fun_cases plainDots segment <;> simp

private theorem plainDots_eq_dot_cons_iff {segment others : List Char} :
    plainDots segment = '.' :: others ↔
      ∃ dot ∈ dotSpellings, ∃ rest, segment = dot ++ rest ∧ plainDots rest = others := by
  fun_cases plainDots segment with
  | case1 c rest escaped =>
      rcases (by simpa using escaped : c = 'e' ∨ c = 'E') with rfl | rfl <;>
        simp [dotSpellings]
  | case2 c rest other =>
      obtain ⟨lower, upper⟩ : c ≠ 'e' ∧ c ≠ 'E' := by simpa using other
      simp [dotSpellings, lower, upper]
  | case3 c rest escape =>
      by_cases dot : c = '.'
      · subst dot
        simp [dotSpellings]
      · have unescaped : ∀ e more, ¬(c = '%' ∧ rest = '2' :: e :: more) := by
          rintro e more ⟨rfl, rfl⟩
          exact escape e more rfl rfl
        simp only [dotSpellings, List.cons.injEq, dot, false_and, false_iff]
        rintro ⟨spelling, known, more, shape, -⟩
        simp only [List.mem_cons, List.not_mem_nil, or_false] at known
        rcases known with rfl | rfl | rfl
        · exact dot (List.cons.inj shape).1
        · exact unescaped _ more (List.cons.inj shape)
        · exact unescaped _ more (List.cons.inj shape)
  | case4 => simp [dotSpellings]

theorem isSingleDot_eq (segment : List Char) : isSingleDot segment = stepsAside segment := by
  rw [Bool.eq_iff_iff]
  simp [isSingleDot, stepsAside, plainDots_eq_dot_cons_iff, plainDots_eq_nil_iff]

theorem isDoubleDot_eq (segment : List Char) : isDoubleDot segment = stepsUp segment := by
  rw [Bool.eq_iff_iff]
  simp only [isDoubleDot, stepsUp, decide_eq_true_eq, List.any_eq_true, plainDots_eq_dot_cons_iff,
    plainDots_eq_nil_iff]
  constructor
  · rintro ⟨first, firstKnown, rest, rfl, last, lastKnown, more, rfl, rfl⟩
    exact ⟨first, firstKnown, last, lastKnown, by simp⟩
  · rintro ⟨first, firstKnown, last, lastKnown, rfl⟩
    exact ⟨first, firstKnown, last, rfl, last, lastKnown, [], by simp, rfl⟩

/-! ## What remains of a path -/

/-- The segments that no later double dot takes back, and before them, the number of double dots
that have not found a segment to take back. -/
def survivors : List (List Char) → Nat × List (List Char)
  | [] => (0, [])
  | segment :: rest =>
      let (pending, kept) := survivors rest
      if stepsUp segment then (pending + 1, kept)
      else if stepsAside segment then (pending, kept)
      else
        match pending with
        | 0 => (0, segment :: kept)
        | pending + 1 => (pending, kept)

/-- Segments, with an empty one at the end if there were dots. -/
def closeDots (segments : List (List Char)) : List (List Char) :=
  if segments.getLast?.any fun last => stepsUp last || stepsAside last then segments ++ [[]]
  else segments

/-- The normal form of a path, whatever slash it begins with: its slashes all forward, its dots
resolved, and escaped where it has to be. -/
def normalPath (path : List Char) : List Char :=
  '/' :: List.intercalate ['/']
    ((survivors (closeDots (splitAtSlashes (path.drop 1)))).2.map (escape pathEscapes))

theorem survivors_cons_up {segment : List Char} (up : stepsUp segment = true)
    (rest : List (List Char)) :
    survivors (segment :: rest) = ((survivors rest).1 + 1, (survivors rest).2) := by
  simp [survivors, up]

theorem survivors_cons_aside {segment : List Char} (notUp : stepsUp segment = false)
    (aside : stepsAside segment = true) (rest : List (List Char)) :
    survivors (segment :: rest) = survivors rest := by
  simp [survivors, notUp, aside]

theorem survivors_cons_name {segment : List Char} (notUp : stepsUp segment = false)
    (notAside : stepsAside segment = false) (rest : List (List Char)) :
    survivors (segment :: rest) =
      if (survivors rest).1 = 0 then (0, segment :: (survivors rest).2)
      else ((survivors rest).1 - 1, (survivors rest).2) := by
  cases pending : (survivors rest).1 with
  | zero => simp [survivors, notUp, notAside, pending]
  | succ others => simp [survivors, notUp, notAside, pending]

private theorem closeDots_cons {segment : List Char} {rest : List (List Char)} (more : rest ≠ []) :
    closeDots (segment :: rest) = segment :: closeDots rest := by
  obtain ⟨next, others, rfl⟩ := List.exists_cons_of_ne_nil more
  unfold closeDots
  rw [List.getLast?_cons_cons]
  split <;> rfl

/-- Going along the segments keeps, of those so far, what the rest does not take back, and of the
rest, what survives. -/
theorem resolveSegments_eq (above segments : List (List Char)) :
    resolveSegments above segments =
      (above.drop (survivors (closeDots segments)).1).reverse ++
        (survivors (closeDots segments)).2.map (escape pathEscapes) := by
  have empty : stepsUp [] = false ∧ stepsAside [] = false ∧ escape pathEscapes [] = [] :=
    ⟨rfl, rfl, rfl⟩
  induction segments generalizing above with
  | nil => simp [resolveSegments, closeDots, survivors]
  | cons segment rest ih =>
      unfold resolveSegments
      rw [isDoubleDot_eq, isSingleDot_eq]
      by_cases last : rest = []
      · -- Only here do dots leave something of their own.
        subst last
        by_cases up : stepsUp segment = true
        · simp [up, closeDots, survivors, resolveSegments, empty]
        · by_cases aside : stepsAside segment = true
          · simp [up, aside, closeDots, survivors, resolveSegments, empty]
          · simp [up, aside, closeDots, survivors, resolveSegments]
      · have goesOn : rest.isEmpty = false := by simpa using last
        rw [closeDots_cons last, ih, goesOn]
        cases up : stepsUp segment with
        | true => simp [survivors_cons_up up, Nat.add_comm]
        | false =>
            cases aside : stepsAside segment with
            | true => simp [survivors_cons_aside up aside]
            | false =>
                rw [survivors_cons_name up aside]
                cases pending : (survivors (closeDots rest)).1 with
                | zero => simp
                | succ others => simp

/-! ## Paths without dots -/

/-- No segment of a path is made of dots, in whatever spelling and between whatever slashes. -/
def DotFree (path : List Char) : Prop :=
  ∀ segment ∈ splitAtSlashes path, stepsUp segment = false ∧ stepsAside segment = false

instance (path : List Char) : Decidable (DotFree path) := List.decidableBAll _ _

/-- A character of a path that is sent as it is. -/
def isSentAsIs (c : Char) : Bool := c ≠ '\\' && escape pathEscapes [c] = [c]

/-- A character of a query that is sent as it is. -/
def isSentInQuery (c : Char) : Bool := escape queryEscapes [c] = [c]

private theorem survivors_of_dotFree {segments : List (List Char)}
    (plain : ∀ segment ∈ segments, stepsUp segment = false ∧ stepsAside segment = false) :
    survivors segments = (0, segments) := by
  induction segments with
  | nil => rfl
  | cons segment rest ih =>
      obtain ⟨up, aside⟩ := plain segment List.mem_cons_self
      have others := ih fun segment known => plain segment (List.mem_cons_of_mem _ known)
      rw [survivors_cons_name up aside, others]
      rfl

private theorem closeDots_of_dotFree {segments : List (List Char)}
    (plain : ∀ segment ∈ segments, stepsUp segment = false ∧ stepsAside segment = false) :
    closeDots segments = segments := by
  unfold closeDots
  cases ends : segments.getLast? with
  | none => simp
  | some last => simp [plain last (List.mem_of_getLast? ends)]

private theorem escape_cons (demanded text : List Char) (c : Char) :
    escape demanded (c :: text) = escape demanded [c] ++ escape demanded text := by
  simp [escape]

private theorem escape_singleton (demanded : List Char) (c : Char) :
    escape demanded [c] =
      if c.toNat < 0x20 || 0x7e < c.toNat || demanded.contains c then
        (String.utf8EncodeChar c).flatMap escapeByte
      else [c] := by
  simp only [escape, List.flatMap_cons, List.flatMap_nil, List.append_nil]

theorem escape_singleton_eq_iff {demanded : List Char} {c : Char} :
    escape demanded [c] = [c] ↔ 0x20 ≤ c.toNat ∧ c.toNat ≤ 0x7e ∧ c ∉ demanded := by
  rw [escape_singleton]
  split
  next escaped =>
    have changed : (String.utf8EncodeChar c).flatMap escapeByte ≠ [c] := by
      obtain ⟨byte, bytes, encoded⟩ :=
        List.exists_cons_of_ne_nil (String.utf8EncodeChar_ne_nil (c := c))
      rw [encoded]
      exact fun same => nomatch (List.cons.inj same).2
    refine iff_of_false changed ?_
    rintro ⟨low, high, free⟩
    simp only [Bool.or_eq_true, decide_eq_true_eq, List.contains_iff_mem] at escaped
    rcases escaped with (below | above) | demands
    · omega
    · omega
    · exact free demands
  next plain =>
    refine iff_of_true rfl ?_
    simp only [Bool.or_eq_true, decide_eq_true_eq, List.contains_iff_mem, not_or] at plain
    obtain ⟨⟨low, high⟩, free⟩ := plain
    exact ⟨by omega, by omega, free⟩

private theorem escape_slash : escape pathEscapes ['/'] = ['/'] := rfl

private theorem intercalate_escape_splitAt (text : List Char) :
    List.intercalate ['/'] ((splitAt '/' text).map (escape pathEscapes)) =
      escape pathEscapes text := by
  induction text with
  | nil => rfl
  | cons c rest ih =>
      cases parts : splitAt '/' rest with
      | nil => exact False.elim (splitAt_ne_nil '/' rest parts)
      | cons first others =>
          rw [parts] at ih
          by_cases slash : c = '/'
          · subst slash
            rw [splitAt_cons_self, parts, escape_cons, escape_slash, ← ih]
            rfl
          · rw [splitAt_cons_of_ne slash parts, List.map_cons, escape_cons, escape_cons _ rest, ← ih]
            cases others <;> simp [List.intercalate]

/-- What a character of a path is sent as if there are no dots. -/
def writtenInPath (c : Char) : List Char := escape pathEscapes [if isSlash c then '/' else c]

private theorem escape_forward (text : List Char) :
    escape pathEscapes (text.map fun c => if isSlash c then '/' else c) =
      text.flatMap writtenInPath := by
  induction text with
  | nil => rfl
  | cons c rest ih =>
      rw [List.map_cons, escape_cons, List.flatMap_cons, ih]
      rfl

theorem normalPath_of_dotFree {rest : List Char} (plain : DotFree ('/' :: rest)) :
    normalPath ('/' :: rest) = ('/' :: rest).flatMap writtenInPath := by
  have split : splitAtSlashes ('/' :: rest) = [] :: splitAtSlashes rest :=
    splitAt_cons_self '/' _
  have others : ∀ segment ∈ splitAtSlashes rest,
      stepsUp segment = false ∧ stepsAside segment = false := fun segment known =>
    plain segment (by rw [split]; exact List.mem_cons_of_mem _ known)
  have whole : normalPath ('/' :: rest) =
      '/' :: escape pathEscapes (rest.map fun c => if isSlash c then '/' else c) := by
    unfold normalPath
    rw [List.drop_one, List.tail_cons, closeDots_of_dotFree others, survivors_of_dotFree others]
    exact congrArg ('/' :: ·) (intercalate_escape_splitAt _)
  rw [whole, escape_forward]
  rfl

private theorem writtenInPath_cases (c : Char) :
    (isSentAsIs c = true ∧ writtenInPath c = [c]) ∨
      (isSentAsIs c = false ∧ ∃ d more, writtenInPath c = d :: more ∧ c ≠ d) := by
  unfold isSentAsIs writtenInPath
  by_cases back : c = '\\'
  · subst back
    exact .inr ⟨rfl, '/', [], rfl, by decide⟩
  · have forward : (if isSlash c then '/' else c) = c := by
      by_cases slash : c = '/' <;> simp [isSlash, slash, back]
    rw [forward]
    by_cases same : escape pathEscapes [c] = [c]
    · exact .inl ⟨by simp [same, back], same⟩
    · refine .inr ⟨by simp [same], ?_⟩
      rw [escape_singleton] at same ⊢
      split at same
      next demanded =>
        obtain ⟨byte, bytes, encoded⟩ :=
          List.exists_cons_of_ne_nil (String.utf8EncodeChar_ne_nil (c := c))
        rw [if_pos demanded, encoded]
        refine ⟨'%', _, rfl, ?_⟩
        rintro rfl
        exact absurd demanded (by decide)
      next => exact absurd rfl same

/-- A path without dots keeps a beginning exactly if every character of it is sent as it is. -/
theorem prefix_normalPath_iff {lead rest : List Char} (plain : DotFree ('/' :: rest))
    (begins : lead <+: '/' :: rest) :
    lead <+: normalPath ('/' :: rest) ↔ ∀ c ∈ lead, isSentAsIs c = true := by
  obtain ⟨after, whole⟩ := begins
  rw [normalPath_of_dotFree plain, ← whole, List.flatMap_append]
  generalize after.flatMap writtenInPath = sent
  clear whole
  induction lead with
  | nil => simp
  | cons c lead ih =>
      rw [List.flatMap_cons, List.forall_mem_cons]
      rcases writtenInPath_cases c with ⟨kept, same⟩ | ⟨changed, d, more, written, other⟩
      · rw [same, List.singleton_append, List.cons_append, List.prefix_cons_inj, ih]
        simp [kept]
      · rw [written, List.cons_append, List.cons_append]
        constructor
        · intro begins
          exact False.elim (other (List.cons_prefix_cons.mp begins).1)
        · intro kept
          exact absurd kept.1 (by simp [changed])

theorem escape_eq_self {demanded text : List Char}
    (kept : ∀ c ∈ text, escape demanded [c] = [c]) : escape demanded text = text := by
  induction text with
  | nil => rfl
  | cons c rest ih =>
      rw [escape_cons, kept c List.mem_cons_self,
        ih fun other known => kept other (List.mem_cons_of_mem _ known), List.singleton_append]

theorem normalPath_eq_self {rest : List Char} (plain : DotFree ('/' :: rest))
    (kept : ∀ c ∈ '/' :: rest, isSentAsIs c = true) : normalPath ('/' :: rest) = '/' :: rest := by
  have same : ∀ c ∈ '/' :: rest, writtenInPath c = [c] := by
    intro c known
    rcases writtenInPath_cases c with ⟨-, same⟩ | ⟨changed, -⟩
    · exact same
    · rw [kept c known] at changed
      cases changed
  rw [normalPath_of_dotFree plain]
  clear plain kept
  generalize '/' :: rest = path at same ⊢
  induction path with
  | nil => rfl
  | cons c others ih =>
      rw [List.flatMap_cons, same c List.mem_cons_self,
        ih fun other known => same other (List.mem_cons_of_mem _ known), List.singleton_append]

/-! ## Climbing -/

/-- A way up by so many places. -/
def climb : Nat → List Char
  | 0 => []
  | places + 1 => "/..".toList ++ climb places

theorem mem_climb {c : Char} {places : Nat} (known : c ∈ climb places) : c = '/' ∨ c = '.' := by
  induction places with
  | zero => cases known
  | succ places ih =>
      rcases List.mem_append.mp known with step | others
      · simpa using step
      · exact ih others

private theorem splitAtSlashes_climb (text : List Char) (places : Nat) :
    splitAtSlashes (text ++ climb places) =
      splitAtSlashes text ++ List.replicate places "..".toList := by
  induction places generalizing text with
  | zero => simp [climb]
  | succ places ih =>
      have step : splitAtSlashes (text ++ '/' :: ("..".toList ++ climb places)) =
          splitAtSlashes text ++ splitAtSlashes ("..".toList ++ climb places) := by
        unfold splitAtSlashes
        rw [List.map_append, List.map_cons]
        exact splitAt_append_cons '/' _ _
      have dots : splitAtSlashes "..".toList = ["..".toList] := rfl
      rw [ih, dots] at step
      exact step

private theorem survivors_append (segments rest : List (List Char)) :
    (survivors rest).1 ≤ (survivors (segments ++ rest)).1 + segments.length ∧
      (segments.length ≤ (survivors rest).1 →
        (survivors (segments ++ rest)).2 = (survivors rest).2) := by
  induction segments with
  | nil => simp
  | cons segment segments ih =>
      obtain ⟨taken, kept⟩ := ih
      rw [List.cons_append, List.length_cons]
      cases up : stepsUp segment with
      | true =>
          rw [survivors_cons_up up]
          exact ⟨by simp only; omega, fun enough => kept (by omega)⟩
      | false =>
          cases aside : stepsAside segment with
          | true =>
              rw [survivors_cons_aside up aside]
              exact ⟨by omega, fun enough => kept (by omega)⟩
          | false =>
              rw [survivors_cons_name up aside]
              split
              · exact ⟨by simp only; omega, fun enough => by omega⟩
              · exact ⟨by simp only; omega, fun enough => kept (by omega)⟩

private theorem survivors_replicate (places : Nat) :
    survivors (List.replicate places "..".toList ++ [[]]) = (places, [[]]) := by
  have up : stepsUp "..".toList = true := rfl
  induction places with
  | zero => rfl
  | succ places ih =>
      rw [List.replicate_succ, List.cons_append, survivors_cons_up up, ih]

/-- A path that climbs as often as it has segments is the root. -/
theorem normalPath_climb {rest : List Char} {places : Nat}
    (enough : (splitAtSlashes rest).length ≤ places) :
    normalPath ('/' :: rest ++ climb places) = ['/'] := by
  have closed : closeDots (splitAtSlashes (rest ++ climb places)) =
      splitAtSlashes rest ++ (List.replicate places "..".toList ++ [[]]) := by
    have climbs : 0 < places :=
      Nat.lt_of_lt_of_le (List.length_pos_iff.mpr (splitAt_ne_nil '/' _)) enough
    have last : (splitAtSlashes rest ++ List.replicate places "..".toList).getLast? =
        some "..".toList := by
      rw [List.getLast?_append, List.getLast?_replicate, if_neg (by omega)]
      rfl
    unfold closeDots
    rw [splitAtSlashes_climb, last]
    exact List.append_assoc _ _ _
  have taken : (survivors (splitAtSlashes rest ++
      (List.replicate places "..".toList ++ [[]]))).2 = [[]] := by
    rw [(survivors_append _ _).2 (by rw [survivors_replicate]; exact enough), survivors_replicate]
  unfold normalPath
  rw [List.cons_append, List.drop_one, List.tail_cons, closed, taken]
  rfl

/-! ## What a normal form is made of -/

private theorem upperHexDigit_ne {n : Nat} (small : n < 16) : upperHexDigit n ≠ '?' := by
  revert n
  decide

private theorem not_mem_escapeByte (byte : UInt8) : '?' ∉ escapeByte byte := by
  have high : upperHexDigit (byte.toNat / 16) ≠ '?' :=
    upperHexDigit_ne (by have := byte.toNat_lt; omega)
  have low : upperHexDigit (byte.toNat % 16) ≠ '?' := upperHexDigit_ne (by omega)
  simp [escapeByte, high.symm, low.symm]

private theorem not_mem_escape (text : List Char) : '?' ∉ escape pathEscapes text := by
  induction text with
  | nil => simp [escape]
  | cons c rest ih =>
      rw [escape_cons, List.mem_append, not_or]
      refine ⟨?_, ih⟩
      rw [escape_singleton]
      split
      · simp [not_mem_escapeByte]
      next allowed =>
        rw [List.mem_singleton]
        rintro rfl
        exact allowed (by decide)

theorem not_mem_normalPath (path : List Char) : '?' ∉ normalPath path := by
  have joined : ∀ parts : List (List Char),
      '?' ∉ List.intercalate ['/'] (parts.map (escape pathEscapes)) := by
    intro parts
    induction parts with
    | nil => simp [List.intercalate]
    | cons part rest ih =>
        cases rest with
        | nil => simpa [List.intercalate] using not_mem_escape part
        | cons next others =>
            have whole : List.intercalate ['/'] ((part :: next :: others).map (escape pathEscapes)) =
                escape pathEscapes part ++ '/' ::
                  List.intercalate ['/'] ((next :: others).map (escape pathEscapes)) := by
              simp [List.intercalate]
            rw [whole, List.mem_append, List.mem_cons, not_or, not_or]
            exact ⟨not_mem_escape part, by decide, ih⟩
  unfold normalPath
  rw [List.mem_cons, not_or]
  exact ⟨by decide, joined _⟩

end WebviewHost.Network
