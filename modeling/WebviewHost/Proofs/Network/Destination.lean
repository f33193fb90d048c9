import Mathlib.Data.List.TakeWhile
import WebviewHost.Network.Url

/-!
# The destination of a URL

Whom a URL asks, and as whom: what is read of its scheme and its authority, whatever follows them.
Where something ends the authority, nothing behind that changes the destination.
-/

set_option autoImplicit false

namespace WebviewHost.Network

/-! ## Reading in two parts -/

/-- What a URL says before its path. -/
structure Destination where
  scheme : Scheme
  username : List Char
  password : Option (List Char)
  host : Host
  port : Option Nat
  deriving DecidableEq, Repr

def Url.destination (url : Url) : Destination :=
  ⟨url.scheme, url.username, url.password, url.host, url.port⟩

/-- The URL of a path and a query at a destination. -/
def Destination.url (destination : Destination)
    (path : List (List Char) × Option (List Char)) : Url :=
  ⟨destination.scheme, destination.username, destination.password, destination.host,
    destination.port, path.1, path.2⟩

def destinationOf? (scheme : Scheme) (authority : List Char) : Option Destination := do
  let (credentials, server) := splitCredentials authority
  let (hostText, portText) := splitPort false server
  let host ← host? hostText
  let port ← urlPort? scheme portText
  let (username, password) := readCredentials credentials
  return ⟨scheme, username, password, host, port⟩

/-- The authority in what follows the scheme of a URL. -/
def leadingAuthority (text : List Char) : List Char :=
  (text.dropWhile isSlash).takeWhile fun c => !endsUrlAuthority c

def afterAuthority (text : List Char) : List Char :=
  (text.dropWhile isSlash).dropWhile fun c => !endsUrlAuthority c

theorem Url.parse?_eq (text : String) :
    Url.parse? text = (takeScheme? (tidy text.toList)).bind fun (scheme, rest) =>
      (destinationOf? scheme (leadingAuthority rest)).map fun destination =>
        destination.url (readPath (afterAuthority rest)) := by
  unfold Url.parse? destinationOf?
  cases takeScheme? (tidy text.toList) with
  | none => rfl
  | some read =>
    obtain ⟨scheme, rest⟩ := read
    simp only [Option.bind_eq_bind, Option.bind_some, Option.pure_def, Option.map_bind,
      Function.comp_def, Option.map_some]
    rfl

/-! ## Schemes -/

/-- How the URLs of a scheme begin. -/
def Scheme.lead : Scheme → List Char
  | .http => "http://".toList
  | .https => "https://".toList

theorem exists_lead {text : List Char}
    (web : text = "http://".toList ∨ text = "https://".toList) :
    ∃ scheme : Scheme, text = scheme.lead := by
  rcases web with rfl | rfl
  · exact ⟨.http, rfl⟩
  · exact ⟨.https, rfl⟩

theorem isBreak_of_isMargin {c : Char} (kept : isMargin c = false) : isBreak c = false := by
  by_cases broken : isBreak c = true
  · rcases (by simpa [isBreak, or_assoc] using broken : c = '\t' ∨ c = '\n' ∨ c = '\r') with
      rfl | rfl | rfl <;> simp [isMargin] at kept
  · simpa using broken

theorem tidy_eq_filter {text : List Char} {first last : Char} (begins : text.head? = some first)
    (ends : text.getLast? = some last) (firstKept : isMargin first = false)
    (lastKept : isMargin last = false) : tidy text = text.filter fun c => !isBreak c := by
  have front : text.dropWhile isMargin = text := by
    obtain ⟨rest, rfl⟩ := List.head?_eq_some_iff.mp begins
    exact List.dropWhile_cons_of_neg (by simp [firstKept])
  have back : text.reverse.dropWhile isMargin = text.reverse := by
    obtain ⟨rest, rfl⟩ := List.getLast?_eq_some_iff.mp ends
    rw [List.reverse_append]
    exact List.dropWhile_cons_of_neg (by simp [lastKept])
  unfold tidy
  rw [front, back, List.reverse_reverse]

theorem exists_getLast?_append (front : List Char) {back : List Char} (ends : back ≠ [])
    (unmargined : ∀ c ∈ back, isMargin c = false) :
    ∃ last, (front ++ back).getLast? = some last ∧ isMargin last = false := by
  refine ⟨back.getLast ends, ?_, unmargined _ (List.getLast_mem ends)⟩
  rw [List.getLast?_append, List.getLast?_eq_some_getLast ends]
  rfl

/-- A scheme is taken off whatever follows it, unless that ends in a margin. -/
theorem takeScheme?_tidy_lead (scheme : Scheme) {rest : List Char} {last : Char}
    (ends : rest.getLast? = some last) (lastKept : isMargin last = false) :
    takeScheme? (tidy (scheme.lead ++ rest)) =
      some (scheme, '/' :: '/' :: rest.filter fun c => !isBreak c) := by
  have whole : (scheme.lead ++ rest).getLast? = some last := by
    obtain ⟨front, rfl⟩ := List.getLast?_eq_some_iff.mp ends
    simp [← List.append_assoc]
  cases scheme with
  | http =>
      rw [tidy_eq_filter rfl whole rfl lastKept, List.filter_append]
      rfl
  | https =>
      rw [tidy_eq_filter rfl whole rfl lastKept, List.filter_append]
      rfl

/-! ## Where an authority ends -/

theorem dropWhile_isSlash_of_plain {authority : List Char} (notEmpty : authority ≠ [])
    (plain : ∀ c ∈ authority, isSlash c = false) (rest : List Char) :
    (authority ++ rest).dropWhile isSlash = authority ++ rest := by
  obtain ⟨first, others, rfl⟩ := List.exists_cons_of_ne_nil notEmpty
  exact List.dropWhile_cons_of_neg (by simp [plain first List.mem_cons_self])

/-- A slash behind something that is none ends the authority. -/
theorem leadingAuthority_append {fixed : List Char}
    (closed : ∃ c ∈ fixed.dropWhile isSlash, isSlash c = true) (more : List Char) :
    leadingAuthority (fixed ++ more) = leadingAuthority fixed := by
  obtain ⟨c, known, slash⟩ := closed
  have kept : (fixed.dropWhile isSlash).isEmpty = false := by
    simpa using List.ne_nil_of_mem known
  have stops : ∀ rest : List Char,
      (fixed.dropWhile isSlash ++ rest).takeWhile (fun c => !endsUrlAuthority c) =
        (fixed.dropWhile isSlash).takeWhile fun c => !endsUrlAuthority c := by
    intro rest
    rw [List.takeWhile_append, if_neg]
    intro whole
    have taken := (List.takeWhile_prefix fun c => !endsUrlAuthority c).eq_of_length whole
    have allowed := List.takeWhile_eq_self_iff.mp taken c known
    simp [endsUrlAuthority, slash] at allowed
  unfold leadingAuthority
  rw [List.dropWhile_append, kept, if_neg Bool.false_ne_true, stops]

theorem leadingAuthority_of_slashes {slashes : List Char}
    (all : ∀ c ∈ slashes, isSlash c = true) (rest : List Char) :
    leadingAuthority (slashes ++ rest) = leadingAuthority rest := by
  unfold leadingAuthority
  rw [List.dropWhile_append_of_pos all]

/-! ## Credentials -/

theorem host_destinationOf?_at (scheme : Scheme) (credentials : List Char) {c : Char}
    (letter : c ≠ '@' ∧ c ≠ ':') :
    (destinationOf? scheme (credentials ++ ['@', c])).map Destination.host = host? [c] := by
  have split : splitCredentials (credentials ++ ['@', c]) = (some credentials, [c]) := by
    simp [splitCredentials, letter.1]
  have server : splitPort false [c] = ([c], none) := by
    simp [splitPort, letter.2]
  unfold destinationOf?
  simp only [split, server, urlPort?, Option.bind_eq_bind, Option.bind_some, Option.pure_def]
  cases host? [c] with
  | none => rfl
  | some host => rfl

end WebviewHost.Network
