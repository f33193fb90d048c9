import WebviewHost.Proofs.Json.Reading
import WebviewHost.Proofs.Settings.History
import WebviewHost.Proofs.Settings.Reload

/-!
# Opening a store

What a settings file stands for, whatever bytes it holds: the members of an object as they are
written, with the defaults that are missing, and the defaults alone if the bytes are no text of an
object. Opening leaves such a file alone; where there is none, one is made with the defaults.
-/

set_option autoImplicit false

namespace WebviewHost.Settings

open WebviewHost.Files
open WebviewHost.Json (ObjectBytes)
open WebviewHost.Members (contains get?)

/-! ## What a file stands for -/

/-- The value that members give a key in the order in which they are written: that of the last. -/
def LastValue (entries : List (String × Json)) (key : String) (value : Json) : Prop :=
  ∃ before after, entries = before ++ (key, value) :: after ∧ ∀ entry ∈ after, entry.1 ≠ key

/-- A document that the content of a settings file stands for. -/
structure StandsFor (content : ByteArray) (document : Members) : Prop where
  written : ∀ entries, ObjectBytes content entries → ∀ key value, LastValue entries key value →
    get? document key = some value
  unwritten : ∀ entries, ObjectBytes content entries → ∀ key, (∀ entry ∈ entries, entry.1 ≠ key) →
    get? document key = get? defaults key
  otherwise : (∀ entries, ¬ObjectBytes content entries) → document = defaults

theorem get?_ofList (entries : List (String × Json)) (key : String) :
    get? (Members.ofList entries) key = get? entries.reverse key :=
  (Store.History.get?_applied [] entries key).trans (Option.or_none)

theorem LastValue.get?_reverse {entries : List (String × Json)} {key : String} {value : Json}
    (last : LastValue entries key value) : get? entries.reverse key = some value := by
  obtain ⟨before, after, rfl, apart⟩ := last
  have later : get? after.reverse key = none :=
    Members.get?_eq_none_iff.mpr fun entry member => apart entry (List.mem_reverse.mp member)
  rw [List.reverse_append, List.reverse_cons, Members.get?_append, Members.get?_append, later]
  simp [get?]

theorem readDocument_of_object {content : ByteArray} {entries : List (String × Json)}
    (object : ObjectBytes content entries) :
    readDocument content = withDefaults (Members.ofList entries) := by
  unfold readDocument
  rw [Json.readBytes?_eq_object_iff.mpr ⟨entries, object, rfl⟩]

theorem standsFor_readDocument (content : ByteArray) :
    StandsFor content (readDocument content) := by
  constructor
  case written =>
    intro entries object key value last
    rw [readDocument_of_object object, get?_withDefaults, get?_ofList, last.get?_reverse]
    rfl
  case unwritten =>
    intro entries object key apart
    have absent : get? entries.reverse key = none :=
      Members.get?_eq_none_iff.mpr fun entry member => apart entry (List.mem_reverse.mp member)
    rw [readDocument_of_object object, get?_withDefaults, get?_ofList, absent]
    rfl
  case otherwise =>
    intro noObject
    unfold readDocument
    split
    next document read =>
      obtain ⟨entries, object, _⟩ := Json.readBytes?_eq_object_iff.mp read
      exact absurd object (noObject entries)
    next => rfl

/-! ## A file that is there -/

namespace Store

section Opening

variable {directory : String} {disk : Disk} {content : ByteArray}

/-- What an attempt to open comes to where the settings file stands for a document and is not
denied. -/
def openedAs (directory : String) (document : Members) (faults : Faults) :
    Except StoreError Store :=
  match faults.unread (joinPath directory settingsFile) with
  | some cause => .error ⟨joinPath directory settingsFile, cause⟩
  | none => .ok ⟨joinPath directory settingsFile, document⟩

theorem openIn_of_readFile (read : disk.readFile (joinPath directory settingsFile) = .ok content)
    {faults : Faults} (affirmed : ¬Denies faults directory) :
    Store.openIn faults directory disk =
      (openedAs directory (readDocument content) faults, disk) := by
  unfold Denies at affirmed
  unfold Store.openIn openedAs Disk.tryReadFile
  rw [Disk.tryDirectories_of_readFile plainName_settingsFile read]
  dsimp only
  rw [read]
  cases refused : faults.unread (joinPath directory settingsFile) with
  | none => rfl
  | some cause =>
      cases cause with
      | notFound => exact absurd refused affirmed
      | _ => rfl

/-- Open a data directory again and again, while some things go wrong. -/
def openings (directory : String) : List Faults → Disk → List (Except StoreError Store) × Disk
  | [], disk => ([], disk)
  | faults :: rest, disk =>
      let (opened, disk) := Store.openIn faults directory disk
      let (others, disk) := openings directory rest disk
      (opened :: others, disk)

theorem openings_of_readFile (read : disk.readFile (joinPath directory settingsFile) = .ok content)
    {attempts : List Faults} (affirmed : ∀ faults ∈ attempts, ¬Denies faults directory) :
    openings directory attempts disk =
      (attempts.map (openedAs directory (readDocument content)), disk) := by
  induction attempts with
  | nil => rfl
  | cons faults rest ih =>
      obtain ⟨first, later⟩ := List.forall_mem_cons.mp affirmed
      rw [openings, openIn_of_readFile read first]
      dsimp only
      rw [ih later]
      rfl

end Opening

/-! ## No file -/

section Creation

variable {directory : String} {disk made : Disk} {faults : Faults}

theorem openIn_of_absent (tried : disk.tryDirectories faults.unmade directory = (.ok (), made))
    (absent : made.tryReadFile faults.unread (joinPath directory settingsFile) =
      .error .notFound) :
    (((creation directory).run faults made).failure = none ∧
      Store.openIn faults directory disk =
        (.ok ⟨joinPath directory settingsFile, defaults⟩,
          ((creation directory).run faults made).final)) ∨
    (((creation directory).run faults made).failure ≠ none ∧ ∃ error,
      Store.openIn faults directory disk =
        (.error error, ((creation directory).run faults made).final)) := by
  unfold Store.openIn
  simp only [tried, absent]
  rcases save_defaults_cases faults directory made with ⟨written, saved⟩ | ⟨failed, error, saved⟩
  · rw [saved]
    exact .inl ⟨written, rfl⟩
  · rw [saved]
    exact .inr ⟨failed, error, rfl⟩

end Creation

/-! ## Opening and after -/

/-- The first change of an opened store that works, whatever has happened before: the file is given
the text of the document that was opened with the change made in it, and no other key changes. -/
structure WritesFirst (store : Store) (before : History) : Prop where
  unchanged : before.store = store
  file : ∀ faults key value, (store.set faults key value before.disk).1 = .ok () →
    Holds store.path (fileText (Members.insert key value store.document))
      (store.set faults key value before.disk).2.2
  memory : ∀ faults key value, (store.set faults key value before.disk).1 = .ok () → ∀ other,
    (store.set faults key value before.disk).2.1.get? other =
      if other = key then some value else store.get? other

/-- What opening a data directory comes to, and what may be known of a store afterwards. A file that
is there is only read, again and again. Where the answer is that there is none, the defaults are
written, also over a file that is denied. -/
structure OpensFaithfully (directory : String) : Prop where
  present : ∀ disk content, disk.readFile (joinPath directory settingsFile) = .ok content →
    ∃ document, StandsFor content document ∧ ∀ attempts,
      (∀ faults ∈ attempts, ¬Denies faults directory) →
        openings directory attempts disk = (attempts.map (openedAs directory document), disk)
  absent : ∀ faults disk made, disk.tryDirectories faults.unmade directory = (.ok (), made) →
    made.tryReadFile faults.unread (joinPath directory settingsFile) = .error .notFound →
    ∀ store opened, Store.openIn faults directory disk = (.ok store, opened) →
      store = ⟨joinPath directory settingsFile, defaults⟩ ∧
        Holds store.path (fileText defaults) opened ∧ ∀ attempts,
          (∀ faults ∈ attempts, ¬Denies faults directory) →
            openings directory attempts opened =
              (attempts.map (openedAs directory defaults), opened)
  creates : ∀ faults disk made, disk.tryDirectories faults.unmade directory = (.ok (), made) →
    made.tryReadFile faults.unread (joinPath directory settingsFile) = .error .notFound →
    Writable directory made → (∀ step, faults.refused step = none) →
    ∃ store opened, Store.openIn faults directory disk = (.ok store, opened)
  uncreated : ∀ faults disk made, disk.tryDirectories faults.unmade directory = (.ok (), made) →
    made.tryReadFile faults.unread (joinPath directory settingsFile) = .error .notFound →
    ∀ error left, Store.openIn faults directory disk = (.error error, left) →
      Untouched (joinPath directory settingsFile) made left
  first : ∀ faults disk store opened, Store.openIn faults directory disk = (.ok store, opened) →
    ∀ events, ((History.begin store opened).run events).landed = [] →
      WritesFirst store ((History.begin store opened).run events)
  complete : ∀ faults disk store opened, Store.openIn faults directory disk = (.ok store, opened) →
    ∀ events key, contains defaults key = true →
      contains ((History.begin store opened).run events).store.document key = true

theorem follows_begin {faults : Faults} {directory : String} {disk opened : Disk} {store : Store}
    (isOpen : Store.openIn faults directory disk = (.ok store, opened)) :
    History.Follows directory store.document (.begin store opened) :=
  ⟨openIn_of_openIn isOpen, rfl⟩

theorem OpenIn.writesFirst {directory : String} {store : Store} (isOpen : store.OpenIn directory)
    {before : History} (unchanged : before.store = store) : WritesFirst store before := by
  refine ⟨unchanged, fun faults key value worked => ?_, fun faults key value worked other => ?_⟩
  · rcases set_eq isOpen faults key value before.disk with ⟨quiet, done⟩ | ⟨_, error, failed⟩
    · rw [done]
      exact (isOpen.replaced faults key value before.disk).done quiet
    · rw [failed] at worked
      cases worked
  · rcases set_eq isOpen faults key value before.disk with ⟨quiet, done⟩ | ⟨_, error, failed⟩
    · rw [done]
      exact Members.get?_insert key other value store.document
    · rw [failed] at worked
      cases worked

/-- A settings file is taken for what its bytes say and is left alone; where there is said to be none,
the defaults are written and are what is read from then on. -/
theorem openIn_faithful (directory : String) : OpensFaithfully directory := by
  constructor
  case present =>
    intro disk content read
    exact ⟨readDocument content, standsFor_readDocument content,
      fun _ affirmed => openings_of_readFile read affirmed⟩
  case absent =>
    intro faults disk made tried absent store opened isOpen
    rcases openIn_of_absent tried absent with ⟨written, done⟩ | ⟨_, error, failed⟩
    · cases isOpen.symm.trans done
      have holds := (replaced_settingsFile directory (fileText defaults) faults made).done written
      refine ⟨rfl, holds, fun attempts affirmed => ?_⟩
      have again := openings_of_readFile holds affirmed
      rwa [readDocument_defaults] at again
    · cases isOpen.symm.trans failed
  case creates =>
    intro faults disk made tried absent writable allowed
    rcases openIn_of_absent tried absent with ⟨_, done⟩ | ⟨failure, _⟩
    · exact ⟨_, _, done⟩
    · exact absurd (run_of_writable writable (fileText defaults) allowed) failure
  case uncreated =>
    intro faults disk made tried absent error left notOpen
    rcases openIn_of_absent tried absent with ⟨_, done⟩ | ⟨failure, _, failed⟩
    · cases notOpen.symm.trans done
    · cases notOpen.symm.trans failed
      exact ((replaced_settingsFile directory (fileText defaults) faults made).failed failure).1
  case first =>
    intro faults disk store opened isOpen events nothing
    have follows := (follows_begin isOpen).run events
    have stored := openIn_of_openIn isOpen
    have document := follows.memory
    rw [nothing] at document
    have path := follows.isOpen.path.trans stored.path.symm
    exact stored.writesFirst (congrArg₂ Store.mk path document)
  case complete =>
    intro faults disk store opened isOpen events key present
    exact ((follows_begin isOpen).run events).isOpen.loaded.complete key present

end Store

end WebviewHost.Settings
