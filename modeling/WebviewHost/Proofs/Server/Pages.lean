import WebviewHost.Proofs.Server.StaticFiles

/-!
# Pages of static files

Which raw paths have a page, and what is answered for it. A path without a page gets the page for
what is missing, in whichever way the search for its own page ended. Asking about a path answers
what fetching it does, without the content.
-/

set_option autoImplicit false

namespace WebviewHost.Server

open WebviewHost.Files (Cause Disk Entry PlainName joinPath pathNames splitAt_of_not_mem)
open WebviewHost.Http (Response contentLength)
open WebviewHost.Text (encodeUtf8)

variable {unread : String → Option Cause} {disk : Disk} {root method path place file : String}
  {content : ByteArray}

/-! ## Files that can be read -/

/-- A regular file that can be read, and its content. -/
structure Readable (unread : String → Option Cause) (disk : Disk) (file : String)
    (content : ByteArray) : Prop where
  allowed : unread file = none
  isFile : ∃ mode, disk.find? file = some (.file mode content)

theorem toOption_tryReadFile_eq_some_iff :
    (disk.tryReadFile unread file).toOption = some content ↔ Readable unread disk file content := by
  unfold Disk.tryReadFile
  constructor
  · intro read
    split at read
    next => cases read
    next allowed =>
      rw [Disk.toOption_readFile] at read
      obtain ⟨entry, found, held⟩ := Option.bind_eq_some_iff.mp read
      cases entry with
      | directory mode => cases held
      | file mode content =>
          cases held
          exact ⟨allowed, mode, found⟩
  · rintro ⟨allowed, mode, found⟩
    rw [allowed]
    dsimp only
    rw [Disk.toOption_readFile, found]
    rfl

theorem Readable.unique {other : ByteArray} (readable : Readable unread disk file content)
    (otherReadable : Readable unread disk file other) : content = other := by
  have read := toOption_tryReadFile_eq_some_iff.mpr readable
  exact Option.some.inj (read.symm.trans (toOption_tryReadFile_eq_some_iff.mpr otherReadable))

/-! ## Pages -/

/-- The file that answers for a place: the one that is there, or the index page of a directory. -/
inductive PageAt (unread : String → Option Cause) (disk : Disk) (place : String) :
    String → ByteArray → Prop where
  | file {content : ByteArray} :
      Readable unread disk place content → PageAt unread disk place place content
  | index {mode : Nat} {content : ByteArray} :
      disk.find? place = some (.directory mode) →
      Readable unread disk (joinPath place indexPage) content →
      PageAt unread disk place (joinPath place indexPage) content

theorem isDirectory_eq_true_iff :
    disk.isDirectory place = true ↔ ∃ mode, disk.find? place = some (.directory mode) := by
  rw [Disk.isDirectory_eq]
  cases disk.find? place with
  | none => simp
  | some entry => cases entry <;> simp [Entry.isDirectory]

theorem pageAt?_eq_some_iff :
    pageAt? unread disk place = some (file, content) ↔ PageAt unread disk place file content := by
  unfold pageAt?
  dsimp only
  constructor
  · intro found
    obtain ⟨read, held, same⟩ := Option.map_eq_some_iff.mp found
    have readable := toOption_tryReadFile_eq_some_iff.mp held
    cases same
    split
    next directory =>
      obtain ⟨mode, here⟩ := isDirectory_eq_true_iff.mp directory
      rw [if_pos directory] at readable
      exact .index here readable
    next other =>
      rw [if_neg other] at readable
      exact .file readable
  · intro page
    cases page with
    | file readable =>
        have other : ¬disk.isDirectory place = true := by
          obtain ⟨mode, here⟩ := readable.isFile
          rw [isDirectory_eq_true_iff, here]
          rintro ⟨_, same⟩
          cases same
        rw [if_neg other, toOption_tryReadFile_eq_some_iff.mpr readable]
        rfl
    | index here readable =>
        rw [if_pos (isDirectory_eq_true_iff.mpr ⟨_, here⟩),
          toOption_tryReadFile_eq_some_iff.mpr readable]
        rfl

/-- A raw path has a page if it leads somewhere and a file answers for that place. -/
def PageFor (unread : String → Option Cause) (disk : Disk) (root path file : String)
    (content : ByteArray) : Prop :=
  ∃ place, resolve? root path = some place ∧ PageAt unread disk place file content

theorem bind_pageAt?_eq_some_iff :
    (resolve? root path).bind (pageAt? unread disk) = some (file, content) ↔
      PageFor unread disk root path file content := by
  rw [Option.bind_eq_some_iff]
  exact exists_congr fun place => and_congr_right fun _ => pageAt?_eq_some_iff

/-! ## Types of pages -/

def htmlType : String := "text/html; charset=utf-8"

/-- The type of a plainly named file does not depend on where it is. -/
theorem contentType_joinPath {name : String} (plain : PlainName name) (directory : String) :
    contentType (joinPath directory name) = contentType name := by
  have own : pathNames name = [name] := by
    have kept : name ≠ "" := by simpa using plain.notEmpty
    simp [pathNames, splitAt_of_not_mem plain.undivided, kept]
  unfold contentType fileName
  rw [plain.pathNames_joinPath, own]
  simp [List.filter_append, plain.notDot]

theorem contentType_indexPage (directory : String) :
    contentType (joinPath directory indexPage) = htmlType :=
  (contentType_joinPath isComponent_pages.1.plainName directory).trans (by decide)

theorem contentType_notFoundPage (directory : String) :
    contentType (joinPath directory notFoundPage) = htmlType :=
  (contentType_joinPath isComponent_pages.2.plainName directory).trans (by decide)

/-! ## Serving -/

/-- What a search for a raw path ends with: the page of the path, the page for what is missing, or
nothing. With a file goes the status it is served with. -/
inductive Search (unread : String → Option Cause) (disk : Disk) (root path : String) :
    Option (Nat × String × ByteArray) → Prop where
  | found {file : String} {content : ByteArray} : PageFor unread disk root path file content →
      Search unread disk root path (some (200, file, content))
  | missing {content : ByteArray} : (∀ file content, ¬PageFor unread disk root path file content) →
      Readable unread disk (joinPath root notFoundPage) content →
      Search unread disk root path (some (404, joinPath root notFoundPage, content))
  | nothing : (∀ file content, ¬PageFor unread disk root path file content) →
      (∀ content, ¬Readable unread disk (joinPath root notFoundPage) content) →
      Search unread disk root path none

/-- The response to a method that may be used, by what the search ended with. -/
def responseTo (method : String) : Option (Nat × String × ByteArray) → Response
  | some (status, file, content) => fileResponse status method file content
  | none => .empty 404 []

theorem exists_search (unread : String → Option Cause) (disk : Disk) (root path : String) :
    ∃ ending, Search unread disk root path ending ∧ ∀ method, method = "GET" ∨ method = "HEAD" →
      tryServeFile unread disk root method path = responseTo method ending := by
  have allowed : ∀ method, method = "GET" ∨ method = "HEAD" →
      ¬(decide (method ≠ "GET") && decide (method ≠ "HEAD")) = true := by
    rintro method (rfl | rfl) <;> decide
  unfold tryServeFile
  cases own : (resolve? root path).bind (pageAt? unread disk) with
  | some page =>
      obtain ⟨file, content⟩ := page
      refine ⟨_, .found (bind_pageAt?_eq_some_iff.mp own), fun method asked => ?_⟩
      rw [if_neg (allowed method asked)]
      rfl
  | none =>
      have noPage : ∀ file content, ¬PageFor unread disk root path file content :=
        fun file content page => by
          rw [← bind_pageAt?_eq_some_iff, own] at page
          cases page
      unfold notFound
      dsimp only
      cases read : disk.tryReadFile unread (joinPath root notFoundPage) with
      | ok content =>
          have readable := toOption_tryReadFile_eq_some_iff.mp (congrArg Except.toOption read)
          refine ⟨_, .missing noPage readable, fun method asked => ?_⟩
          rw [if_neg (allowed method asked)]
          rfl
      | error cause =>
          have unreadable : ∀ content, ¬Readable unread disk (joinPath root notFoundPage) content :=
            fun content readable => by
              rw [← toOption_tryReadFile_eq_some_iff, read] at readable
              cases readable
          refine ⟨_, .nothing noPage unreadable, fun method asked => ?_⟩
          rw [if_neg (allowed method asked)]
          rfl

theorem PageFor.unique {otherFile : String} {other : ByteArray}
    (page : PageFor unread disk root path file content)
    (otherPage : PageFor unread disk root path otherFile other) :
    file = otherFile ∧ content = other := by
  rw [← bind_pageAt?_eq_some_iff] at page otherPage
  cases page.symm.trans otherPage
  exact ⟨rfl, rfl⟩

theorem values_contentLength (status : Nat) (file : String) (content : ByteArray) :
    Http.Headers.values (fileResponse status "GET" file content).headers "content-length" =
      [encodeUtf8 (toString content.size)] := rfl

/-- A whole file of some type. -/
def page (status : Nat) (type : String) (content : ByteArray) : Response :=
  ⟨status, [.ofText "content-type" type, contentLength content.size], .whole content⟩

/-- What a path is served with, by method: its page when it is fetched, and the same without the
content when it is asked about. -/
structure ServesPages (unread : String → Option Cause) (disk : Disk) (root path : String)
    (serve : String → Response) : Prop where
  found_iff : ∀ content, (serve "GET").status = 200 ∧ (serve "GET").body = .whole content ↔
    ∃ file, PageFor unread disk root path file content
  found : ∀ file content, PageFor unread disk root path file content →
    serve "GET" = page 200 (contentType file) content
  indexType : ∀ place, contentType (joinPath place indexPage) = htmlType
  missing : (∀ file content, ¬PageFor unread disk root path file content) →
    (∃ content, Readable unread disk (joinPath root notFoundPage) content ∧
      serve "GET" = page 404 htmlType content) ∨
    (∀ content, ¬Readable unread disk (joinPath root notFoundPage) content) ∧
      serve "GET" = .empty 404 []
  head : (serve "HEAD").status = (serve "GET").status ∧
    (serve "HEAD").headers = (serve "GET").headers ∧ (serve "HEAD").body = .whole .empty
  told : ∀ length ∈ Http.Headers.values (serve "GET").headers "content-length",
    ∃ content, (serve "GET").body = .whole content ∧ length = encodeUtf8 (toString content.size)
  others : ∀ method, method ≠ "GET" → method ≠ "HEAD" →
    serve method = .empty 405 [.ofText "allow" "GET, HEAD"]

/-- Whatever is on the disk and whichever files cannot be read, a path is served its page, or the
page for what is missing. -/
theorem serveFile_servesPages (disk : Disk) (root path : String) :
    (∀ unread, ServesPages unread disk root path
      fun method => tryServeFile unread disk root method path) ∧
    ServesPages (fun _ => none) disk root path fun method => serveFile disk root method path := by
  have each : ∀ unread, ServesPages unread disk root path
      fun method => tryServeFile unread disk root method path := by
    intro unread
    obtain ⟨ending, search, served⟩ := exists_search unread disk root path
    have get := served "GET" (.inl rfl)
    have head := served "HEAD" (.inr rfl)
    constructor
    case found_iff =>
      intro content
      rw [get]
      cases search with
      | @found file own page =>
          constructor
          · rintro ⟨_, same⟩
            cases same
            exact ⟨file, page⟩
          · rintro ⟨other, otherPage⟩
            obtain ⟨rfl, rfl⟩ := page.unique otherPage
            exact ⟨rfl, rfl⟩
      | missing noPage _ =>
          refine iff_of_false ?_ fun ⟨file, page⟩ => noPage file content page
          rintro ⟨status, _⟩
          cases status
      | nothing noPage _ =>
          refine iff_of_false ?_ fun ⟨file, page⟩ => noPage file content page
          rintro ⟨status, _⟩
          cases status
    case found =>
      intro file content page
      rw [get]
      cases search with
      | found own =>
          obtain ⟨rfl, rfl⟩ := page.unique own
          rfl
      | missing noPage _ => exact absurd page (noPage file content)
      | nothing noPage _ => exact absurd page (noPage file content)
    case indexType => exact contentType_indexPage
    case missing =>
      intro noPage
      rw [get]
      cases search with
      | found own => exact absurd own (noPage _ _)
      | missing _ readable =>
          refine .inl ⟨_, readable, ?_⟩
          rw [← contentType_notFoundPage root]
          rfl
      | nothing _ unreadable => exact .inr ⟨unreadable, rfl⟩
    case head =>
      rw [get, head]
      cases search <;> exact ⟨rfl, rfl, rfl⟩
    case told =>
      intro length told
      rw [get] at told ⊢
      cases search with
      | found _ => exact ⟨_, rfl, List.mem_singleton.mp (values_contentLength _ _ _ ▸ told)⟩
      | missing _ _ => exact ⟨_, rfl, List.mem_singleton.mp (values_contentLength _ _ _ ▸ told)⟩
      | nothing _ _ => cases told
    case others =>
      intro method noGet noHead
      show tryServeFile unread disk root method path = _
      unfold tryServeFile
      rw [if_pos (by simp [noGet, noHead])]
  exact ⟨each, each _⟩

end WebviewHost.Server
