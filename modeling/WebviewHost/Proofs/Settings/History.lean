import WebviewHost.Proofs.Settings.Store

/-!
# Histories of a settings store

A store is changed again and again, any action of the file system may be refused in any of the
changes, and others may meddle with the file system in between. In memory exactly the changes that
worked are there, in their order, and the file follows unless others have touched it since.
-/

set_option autoImplicit false

namespace WebviewHost.Settings.Store

open WebviewHost.Files (Disk Entry Faults temporaryPath)

/-- What happens to a store and the file system: a key is given a value while some things go wrong,
or others change the file system. -/
inductive Event where
  | change (faults : Faults) (key : String) (value : Json)
  | outside (meddle : Disk → Disk)

def Event.isOwn : Event → Bool
  | .change _ _ _ => true
  | .outside _ => false

/-- A store, the file system, and the changes that worked so far. -/
structure History where
  store : Store
  disk : Disk
  landed : List (String × Json)

namespace History

def next (history : History) : Event → History
  | .change faults key value =>
      match history.store.set faults key value history.disk with
      | (.ok (), store, disk) => ⟨store, disk, history.landed ++ [(key, value)]⟩
      | (.error _, store, disk) => ⟨store, disk, history.landed⟩
  | .outside meddle => { history with disk := meddle history.disk }

def run (history : History) (events : List Event) : History := events.foldl next history

def begin (store : Store) (disk : Disk) : History := ⟨store, disk, []⟩

end History

/-! ## One change -/

/-- A change takes effect in memory and in the file, or in neither; at no point in between is there
anything but the old file or the whole new one. -/
structure AllOrNothing (faults : Faults) (store : Store) (key : String) (value : Json)
    (disk : Disk) : Prop where
  done : ∀ after left, store.set faults key value disk = (.ok (), after, left) →
    (∀ other, after.get? other = if other = key then some value else store.get? other) ∧
      after.document.Ordered ∧ after.path = store.path ∧
      Holds store.path (fileText after.document) left
  failed : ∀ error after left, store.set faults key value disk = (.error error, after, left) →
    after = store ∧ Untouched store.path disk left ∧
      (faults.stuck = none → ∀ mode content,
        left.lookUp (temporaryPath store.path) ≠ .ok (.file mode content))
  final : (store.set faults key value disk).2.2 = (course faults store key value disk).final
  between : ∀ point ∈ (course faults store key value disk).passed,
    Untouched store.path disk point ∨
      Holds store.path (fileText (Members.insert key value store.document)) point

/-- Every change of a store is all or nothing. -/
theorem OpenIn.allOrNothing {directory : String} {store : Store} (isOpen : store.OpenIn directory)
    (faults : Faults) (key : String) (value : Json) (disk : Disk) :
    AllOrNothing faults store key value disk := by
  have replaced := isOpen.replaced faults key value disk
  rcases set_eq isOpen faults key value disk with ⟨quiet, done⟩ | ⟨failure, reason, failed⟩
  · refine ⟨fun after left given => ?_, fun error after left given => ?_, ?_,
      replaced.between⟩
    · rw [done] at given
      cases given
      exact ⟨fun other => Members.get?_insert key other value store.document,
        isOpen.loaded.ordered.insert key value, rfl, replaced.done quiet⟩
    · rw [done] at given
      cases given
    · rw [done]
  · refine ⟨fun after left given => ?_, fun error after left given => ?_, ?_,
      replaced.between⟩
    · rw [failed] at given
      cases given
    · rw [failed] at given
      cases given
      exact ⟨rfl, replaced.failed failure⟩
    · rw [failed]

/-! ## Whole histories -/

namespace History

/-- The document with some changes made in order. -/
def applied (document : Members) (changes : List (String × Json)) : Members :=
  changes.foldl (fun document change => Members.insert change.1 change.2 document) document

/-- The last change of a key is the one that is seen. -/
theorem get?_applied (document : Members) (changes : List (String × Json)) (key : String) :
    Members.get? (applied document changes) key =
      (Members.get? changes.reverse key).or (Members.get? document key) := by
  induction changes generalizing document with
  | nil => rfl
  | cons change rest ih =>
      obtain ⟨name, value⟩ := change
      rw [List.reverse_cons, Members.get?_append, Option.or_assoc]
      refine (ih (Members.insert name value document)).trans (congrArg (Option.or _) ?_)
      rw [Members.get?_insert, Members.get?]
      by_cases same : key = name
      · rw [if_pos same, if_pos same.symm]
        rfl
      · rw [if_neg same, if_neg (Ne.symm same)]
        rfl

theorem next_change {directory : String} {history : History}
    (isOpen : history.store.OpenIn directory) (faults : Faults) (key : String) (value : Json) :
    (history.next (.change faults key value) =
        ⟨⟨history.store.path, Members.insert key value history.store.document⟩,
          (course faults history.store key value history.disk).final,
          history.landed ++ [(key, value)]⟩ ∧
      Holds history.store.path (fileText (Members.insert key value history.store.document))
        (course faults history.store key value history.disk).final) ∨
    (history.next (.change faults key value) =
        ⟨history.store, (course faults history.store key value history.disk).final,
          history.landed⟩ ∧
      Untouched history.store.path history.disk
        (course faults history.store key value history.disk).final) := by
  have replaced := isOpen.replaced faults key value history.disk
  simp only [next]
  rcases set_eq isOpen faults key value history.disk with ⟨quiet, done⟩ | ⟨failure, reason, failed⟩
  · rw [done]
    exact .inl ⟨rfl, replaced.done quiet⟩
  · rw [failed]
    exact .inr ⟨rfl, (replaced.failed failure).1⟩

/-- The store is one of its directory and its document is the first one with the changes that
worked. -/
structure Follows (directory : String) (loaded : Members) (history : History) : Prop where
  isOpen : history.store.OpenIn directory
  memory : history.store.document = applied loaded history.landed

theorem Follows.next {directory : String} {loaded : Members} {history : History}
    (follows : Follows directory loaded history) (event : Event) :
    Follows directory loaded (history.next event) := by
  cases event with
  | outside meddle => exact ⟨follows.isOpen, follows.memory⟩
  | change faults key value =>
      rcases next_change follows.isOpen faults key value with ⟨same, _⟩ | ⟨same, _⟩
      · rw [same]
        refine ⟨follows.isOpen.insert key value, ?_⟩
        unfold applied
        rw [List.foldl_append, follows.memory]
        rfl
      · rw [same]
        exact ⟨follows.isOpen, follows.memory⟩

theorem Follows.run {directory : String} {loaded : Members} {history : History}
    (follows : Follows directory loaded history) (events : List Event) :
    Follows directory loaded (history.run events) := by
  induction events generalizing history with
  | nil => exact follows
  | cons event rest ih => exact ih (follows.next event)

/-- The file follows a history: it is as it was as long as no change has worked since, and then
holds the text of the document. -/
inductive Stored (before after : History) : Prop where
  | idle : after.landed = before.landed → after.store = before.store →
      Untouched before.store.path before.disk after.disk → Stored before after
  | written (more : List (String × Json)) : more ≠ [] → after.landed = before.landed ++ more →
      after.store.path = before.store.path →
      Holds before.store.path (fileText after.store.document) after.disk → Stored before after

theorem Stored.trans {before middle after : History} (first : Stored before middle)
    (second : Stored middle after) : Stored before after := by
  cases first with
  | idle landed store untouched =>
      cases second with
      | idle landedAfter storeAfter untouchedAfter =>
          refine .idle (landedAfter.trans landed) (storeAfter.trans store) ?_
          rw [store] at untouchedAfter
          exact Eq.trans untouchedAfter untouched
      | written more nonempty landedAfter path holds =>
          rw [store] at holds path
          exact .written more nonempty (by rw [landedAfter, landed]) path holds
  | written more nonempty landed path holds =>
      cases second with
      | idle landedAfter storeAfter untouched =>
          refine .written more nonempty (landedAfter.trans landed) (by rw [storeAfter, path]) ?_
          rw [path] at untouched
          rw [storeAfter]
          exact holds.of_untouched untouched
      | written evenMore _ landedAfter pathAfter holdsAfter =>
          refine .written (more ++ evenMore) (by simp [nonempty])
            (by rw [landedAfter, landed, List.append_assoc]) (pathAfter.trans path) ?_
          rw [← path]
          exact holdsAfter

theorem stored_next {directory : String} {history : History}
    (isOpen : history.store.OpenIn directory) {event : Event} (own : event.isOwn = true) :
    Stored history (history.next event) := by
  cases event with
  | outside meddle => cases own
  | change faults key value =>
      rcases next_change isOpen faults key value with ⟨same, holds⟩ | ⟨same, untouched⟩
      · rw [same]
        exact .written [(key, value)] (List.cons_ne_nil _ _) rfl rfl holds
      · rw [same]
        exact .idle rfl rfl untouched

theorem stored_run {directory : String} {loaded : Members} {history : History}
    (follows : Follows directory loaded history) {events : List Event}
    (own : ∀ event ∈ events, event.isOwn = true) : Stored history (history.run events) := by
  induction events generalizing history with
  | nil => exact .idle rfl rfl rfl
  | cons event rest ih =>
      obtain ⟨first, others⟩ := List.forall_mem_cons.mp own
      exact (stored_next follows.isOpen first).trans (ih (follows.next event) others)

/-- What is known of a history that began with a store, whatever has happened since. -/
structure AllOrNothing (loaded : Members) (history : History) : Prop where
  change : ∀ faults key value disk, Store.AllOrNothing faults history.store key value disk
  memory : history.store.document = applied loaded history.landed
  file : ∀ later, (∀ event ∈ later, event.isOwn = true) →
    let after := history.run later
    (after.landed = history.landed → Untouched history.store.path history.disk after.disk) ∧
      (after.landed ≠ history.landed →
        Holds history.store.path (fileText after.store.document) after.disk)

/-- Whatever happens to an opened store, its document is the one that was loaded with the changes
that worked, and every change is all or nothing. -/
theorem history_allOrNothing {faults : Faults} {directory : String} {disk opened : Disk}
    {store : Store} (isOpen : Store.openIn faults directory disk = (.ok store, opened))
    (events : List Event) :
    History.AllOrNothing store.document ((begin store opened).run events) := by
  have first : Follows directory store.document (begin store opened) :=
    ⟨openIn_of_openIn isOpen, rfl⟩
  have now := first.run events
  refine ⟨fun faults key value disk => now.isOpen.allOrNothing faults key value disk, now.memory,
    fun later own => ?_⟩
  -- Only the store's own events are known to leave the file alone between changes.
  cases stored_run now own with
  | idle landed _ untouched => exact ⟨fun _ => untouched, fun apart => absurd landed apart⟩
  | written more nonempty landed _ holds =>
      refine ⟨fun same => ?_, fun _ => holds⟩
      rw [landed] at same
      exact absurd (List.append_right_eq_self.mp same) nonempty

def sampleDisk : Disk :=
  ⟨[(["data"], .directory 0o755), (["data", "config.json"], .file 0o600 "\x7b\x7d".toUTF8)],
    0o022, "/"⟩

/-- A failed change of a missing key between two changes that work. -/
def sampleEvents : List Event := [
  .change .none "keep" (.bool true),
  .change (.at .fill .noSpaceLeft) "lost" .null,
  .outside fun _ => sampleDisk,
  .change .none "keep" (.bool false)]

theorem history_allOrNothing_sample :
    ∃ store, Store.openIn .none "/data" sampleDisk = (.ok store, sampleDisk) ∧
      History.AllOrNothing store.document ((begin store sampleDisk).run sampleEvents) := by
  have isOpen : Store.openIn .none "/data" sampleDisk =
      (.ok ⟨"/data/config.json", readDocument "\x7b\x7d".toUTF8⟩, sampleDisk) := rfl
  exact ⟨_, isOpen, history_allOrNothing isOpen sampleEvents⟩

end History

end WebviewHost.Settings.Store
