import WebviewHost.Proofs.Files.Below
import WebviewHost.Server.StaticFiles

/-!
# Files stay below their root

Which paths are looked up to serve a raw path. They are all put together from the root and from
names that cannot lead elsewhere, so that what surrounds the root does not matter.
-/

set_option autoImplicit false

namespace WebviewHost.Server

open WebviewHost.Files (Disk Entry PlainName joinPath pathNames pathNames_foldl_joinPath splitAt)
open WebviewHost.Files.Disk (AgreeBelow)
open WebviewHost.Http (Response)

variable {disk other : Disk} {root method path asked : String}

/-! ## Names -/

/-- A name that is one step down, on any system. -/
structure IsComponent (name : String) : Prop where
  notEmpty : name ≠ ""
  notDot : name ≠ "."
  notDots : name ≠ ".."
  undivided : ∀ c ∈ name.toList, c ≠ '/' ∧ c ≠ '\\' ∧ c ≠ '\x00'

theorem IsComponent.plainName {name : String} (component : IsComponent name) : PlainName name where
  notEmpty := by simpa using component.notEmpty
  undivided := fun known => (component.undivided '/' known).1 rfl
  notDot := component.notDot
  notDots := component.notDots

theorem isComponent_pages : IsComponent indexPage ∧ IsComponent notFoundPage := by
  refine ⟨⟨?_, ?_, ?_, ?_⟩, ⟨?_, ?_, ?_, ?_⟩⟩ <;> simp [indexPage, notFoundPage]

theorem isComponent_of_segment {raw : List Char} {name : String}
    (read : segment raw = .name name) : IsComponent name := by
  unfold segment at read
  split at read
  next => cases read
  next decoded =>
    split at read
    next => cases read
    next kept =>
      split at read
      next => cases read
      next allowed =>
        cases read
        simp only [Bool.or_eq_true, decide_eq_true_eq, not_or, List.any_eq_true, not_exists,
          not_and] at kept allowed
        exact ⟨kept.1, kept.2, allowed.1, fun c known => by simpa [and_assoc] using allowed.2 c known⟩

theorem isComponent_of_namesOf? {parts : List (List Char)} {names : List String}
    (read : namesOf? parts = some names) : ∀ name ∈ names, IsComponent name := by
  induction parts generalizing names with
  | nil =>
      cases read
      exact List.forall_mem_nil _
  | cons raw rest ih =>
      unfold namesOf? at read
      split at read
      next => cases read
      next => exact ih read
      next name first =>
        obtain ⟨others, restRead, rfl⟩ := Option.map_eq_some_iff.mp read
        exact List.forall_mem_cons.mpr ⟨isComponent_of_segment first, ih restRead⟩

/-! ## Looking up -/

/-- A path that lies below a root: the names of the root come first, then only components. -/
structure LiesBelow (root asked : String) (names : List String) : Prop where
  joined : asked = names.foldl joinPath root
  components : ∀ name ∈ names, IsComponent name
  names : pathNames asked = pathNames root ++ names

theorem liesBelow_foldl (root : String) {names : List String}
    (components : ∀ name ∈ names, IsComponent name) :
    LiesBelow root (names.foldl joinPath root) names :=
  ⟨rfl, components,
    pathNames_foldl_joinPath root fun name known => (components name known).plainName⟩

/-- The paths that are looked up to serve a raw path, in this order. -/
def lookedUp (disk : Disk) (root method path : String) : List String :=
  if method ≠ "GET" && method ≠ "HEAD" then []
  else
    let missing := [joinPath root notFoundPage]
    match resolve? root path with
    | none => missing
    | some place =>
        let file := if disk.isDirectory place then joinPath place indexPage else place
        place :: file :: if (disk.readFile file).toOption.isSome then [] else missing

/-- What may be looked up, and by which names: a place below the root, the index page of one, and
the page for what is missing. -/
inductive MayLookUp (root : String) : String → List String → Prop where
  | place {names : List String} (components : ∀ name ∈ names, IsComponent name) :
      MayLookUp root (names.foldl joinPath root) names
  | index {names : List String} (components : ∀ name ∈ names, IsComponent name) :
      MayLookUp root (joinPath (names.foldl joinPath root) indexPage) (names ++ [indexPage])
  | missing : MayLookUp root (joinPath root notFoundPage) [notFoundPage]

theorem MayLookUp.liesBelow {names : List String} (allowed : MayLookUp root asked names) :
    LiesBelow root asked names := by
  obtain ⟨index, missing⟩ := isComponent_pages
  cases allowed with
  | place components => exact liesBelow_foldl root components
  | index components =>
      have joined := liesBelow_foldl root
        (List.forall_mem_append.mpr ⟨components, List.forall_mem_singleton.mpr index⟩)
      rwa [List.foldl_append] at joined
  | missing => exact liesBelow_foldl root (List.forall_mem_singleton.mpr missing)

theorem mayLookUp_of_mem_lookedUp (known : asked ∈ lookedUp disk root method path) :
    ∃ names, MayLookUp root asked names := by
  unfold lookedUp at known
  split at known
  next => cases known
  next =>
    split at known
    next =>
      cases List.mem_singleton.mp known
      exact ⟨_, .missing⟩
    next place found =>
      obtain ⟨names, read, rfl⟩ := Option.map_eq_some_iff.mp found
      have components := isComponent_of_namesOf? read
      rcases List.mem_cons.mp known with rfl | later
      · exact ⟨names, .place components⟩
      · rcases List.mem_cons.mp later with rfl | last
        · split
          next => exact ⟨_, .index components⟩
          next => exact ⟨names, .place components⟩
        · rw [List.mem_ite_nil_left, List.mem_singleton] at last
          cases last.2
          exact ⟨_, .missing⟩

theorem notFound_eq (disk : Disk) (root method : String) :
    notFound (fun _ => none) disk root method =
      ((disk.find? (joinPath root notFoundPage)).bind Entry.content?).elim (.empty 404 [])
        (fileResponse 404 method (joinPath root notFoundPage)) := by
  rw [← Disk.toOption_readFile]
  unfold notFound Disk.tryReadFile
  dsimp only
  cases disk.readFile (joinPath root notFoundPage) <;> rfl

/-- Nothing but the looked up paths decides what is served. -/
theorem serveFile_eq_of_lookedUp
    (same : ∀ asked ∈ lookedUp disk root method path, other.find? asked = disk.find? asked) :
    serveFile other root method path = serveFile disk root method path := by
  unfold lookedUp at same
  unfold serveFile tryServeFile
  split
  next => rfl
  next fetched =>
    rw [if_neg fetched] at same
    cases resolved : resolve? root path with
    | none =>
        rw [resolved] at same
        show notFound _ other root method = notFound _ disk root method
        rw [notFound_eq, same _ (List.mem_singleton_self _), ← notFound_eq]
    | some place =>
        rw [resolved] at same
        obtain ⟨atPlace, later⟩ := List.forall_mem_cons.mp same
        obtain ⟨atFile, last⟩ := List.forall_mem_cons.mp later
        have page : pageAt? (fun _ => none) other place = pageAt? (fun _ => none) disk place := by
          unfold pageAt? Disk.tryReadFile
          rw [Disk.isDirectory_eq, atPlace, ← Disk.isDirectory_eq]
          dsimp only
          rw [Disk.toOption_readFile, atFile, ← Disk.toOption_readFile]
        rw [Option.bind_some, Option.bind_some, page]
        cases found : pageAt? (fun _ => none) disk place with
        | some served => rfl
        | none =>
            -- Only now is the page for what is missing looked up.
            have unread : (disk.readFile _).toOption = none := Option.map_eq_none_iff.mp found
            rw [unread] at last
            show notFound _ other root method = notFound _ disk root method
            rw [notFound_eq, last _ (List.mem_singleton_self _), ← notFound_eq]

theorem serveFile_eq_of_agreeBelow (agree : AgreeBelow root disk other) :
    serveFile disk root method path = serveFile other root method path := by
  refine (serveFile_eq_of_lookedUp fun asked known => ?_).symm
  obtain ⟨names, allowed⟩ := mayLookUp_of_mem_lookedUp known
  obtain ⟨rfl, components, -⟩ := allowed.liesBelow
  exact (agree.find?_eq fun name member => (components name member).plainName).symm

/-- Two file trees that differ outside the root only are served alike, and whatever is looked up is
the root or lies some components below it. -/
theorem serveFile_staysBelow (root method path : String) :
    (∀ left right : Disk, AgreeBelow root left right →
        serveFile left root method path = serveFile right root method path) ∧
      ∀ disk : Disk,
        (∀ asked ∈ lookedUp disk root method path,
          ∃ names, MayLookUp root asked names ∧ LiesBelow root asked names) ∧
        ∀ other : Disk,
          (∀ asked ∈ lookedUp disk root method path, other.find? asked = disk.find? asked) →
            serveFile other root method path = serveFile disk root method path := by
  refine ⟨fun left right agree => serveFile_eq_of_agreeBelow agree, fun disk => ⟨?_, ?_⟩⟩
  · intro asked known
    obtain ⟨names, allowed⟩ := mayLookUp_of_mem_lookedUp known
    exact ⟨names, allowed, allowed.liesBelow⟩
  · exact fun other same => serveFile_eq_of_lookedUp same

/-- A file beside the root is not found by an escaped climb, and whether it is there does not
matter. -/
theorem serveFile_staysBelow_climb :
    let page : List (Files.Place × Entry) :=
      [(["srv"], .directory 0o755), (["srv", "404.html"], .file 0o644 "none".toUTF8)]
    let left : Disk := ⟨(["secret"], .file 0o600 "key".toUTF8) :: page, 0o022, "/"⟩
    let right : Disk := ⟨page, 0o077, "/srv"⟩
    AgreeBelow "/srv" left right ∧
      lookedUp left "/srv" "GET" "/%2e%2e/secret" = ["/srv/404.html"] ∧
      (∃ names, LiesBelow "/srv" "/srv/404.html" names) ∧
      serveFile left "/srv" "GET" "/%2e%2e/secret" = serveFile right "/srv" "GET" "/%2e%2e/secret" ∧
      serveFile right "/srv" "GET" "/%2e%2e/secret" =
        fileResponse 404 "GET" "/srv/404.html" "none".toUTF8 := by
  intro page left right
  have agree : AgreeBelow "/srv" left right := by
    intro names _
    show left.entry? ("srv" :: names) = right.entry? ("srv" :: names)
    have beside : ["secret"] ≠ "srv" :: names := fun same => absurd (List.cons.inj same).1 (by decide)
    simp [Disk.entry?, left, right, beside]
  have asked : lookedUp left "/srv" "GET" "/%2e%2e/secret" = ["/srv/404.html"] := by decide
  obtain ⟨alike, looks⟩ := serveFile_staysBelow "/srv" "GET" "/%2e%2e/secret"
  obtain ⟨below, decides⟩ := looks left
  obtain ⟨names, -, lies⟩ := below "/srv/404.html" (asked ▸ List.mem_singleton_self _)
  refine ⟨agree, asked, ⟨names, lies⟩, alike left right agree, ?_⟩
  have found : right.find? "/srv/404.html" = left.find? "/srv/404.html" := by decide
  rw [decides right (by rw [asked]; simpa using found)]
  rfl

end WebviewHost.Server
