import WebviewHost.Bridge.Slot

/-!
# Life of a slot

Bridges are installed, asked for and waited for in any order. The first one stays; every task that
waits makes its one call there when it first runs after that, and nobody else makes one.
-/

set_option autoImplicit false

namespace WebviewHost.Bridge

/-- What can be done around a slot. -/
inductive SlotStep (β : Type) where
  | install (bridge : β)
  | get
  | isReady
  | poll
  | await (key : String)
  | letRun (position : Nat)
  | settle

inductive SlotAnswer (β : Type) where
  | installed (outcome : Except BridgeError Unit)
  | got (outcome : Except BridgeError β)
  | ready (now : Bool)
  | polled (bridge : Option β)
  | silent

/-- A call that a waiting task made, and on which bridge. -/
structure MadeCall (β : Type) where
  bridge : β
  position : Nat
  key : String

namespace SlotStep

variable {β : Type}

def installed? : SlotStep β → Option β
  | .install bridge => some bridge
  | _ => none

def awaited? : SlotStep β → Option String
  | .await key => some key
  | _ => none

/-- Whether a step lets the task at a position run. -/
def Runs (position : Nat) : SlotStep β → Prop
  | .letRun other => other = position
  | .settle => True
  | _ => False

end SlotStep

section Specification

variable {β : Type} (steps : List (SlotStep β))

def firstInstalled? : Option β := steps.findSome? (·.installed?)

def awaitedKeys : List String := steps.filterMap (·.awaited?)

/-- A task that had been started was let run when a bridge was there. -/
def RunSinceInstalled (position : Nat) : Prop :=
  ∃ early step late, steps = early ++ step :: late ∧ (firstInstalled? early).isSome = true ∧
    position < (awaitedKeys early).length ∧ step.Runs position

theorem firstInstalled?_append (step : SlotStep β) :
    firstInstalled? (steps ++ [step]) = (firstInstalled? steps).or step.installed? := by
  unfold firstInstalled?
  rw [List.findSome?_append]
  simp

theorem awaitedKeys_append (step : SlotStep β) :
    awaitedKeys (steps ++ [step]) = awaitedKeys steps ++ step.awaited?.toList := by
  unfold awaitedKeys
  rw [List.filterMap_append]
  cases awaited : step.awaited? <;> simp [awaited]

theorem runSinceInstalled_append (step : SlotStep β) (position : Nat) :
    RunSinceInstalled (steps ++ [step]) position ↔
      RunSinceInstalled steps position ∨
        (firstInstalled? steps).isSome = true ∧ position < (awaitedKeys steps).length ∧
          step.Runs position := by
  constructor
  · rintro ⟨early, other, late, split, installed, started, runs⟩
    rcases List.eq_nil_or_concat late with rfl | ⟨late, last, rfl⟩
    · obtain ⟨rfl, same⟩ := List.append_inj' split rfl
      cases same
      exact .inr ⟨installed, started, runs⟩
    · rw [List.concat_eq_append, ← List.cons_append, ← List.append_assoc] at split
      obtain ⟨rfl, -⟩ := List.append_inj' split rfl
      exact .inl ⟨early, other, late, rfl, installed, started, runs⟩
  · rintro (⟨early, other, late, rfl, known⟩ | now)
    · exact ⟨early, other, late ++ [step], by simp, known⟩
    · exact ⟨steps, step, [], rfl, now⟩

end Specification

namespace WaitingRoom

section Run

variable {β σ : Type} (perform : β → Performer σ)

def begin (world : σ) : WaitingRoom β σ := ⟨.empty, world, []⟩

def take (room : WaitingRoom β σ) : SlotStep β → SlotAnswer β × WaitingRoom β σ
  | .install bridge =>
      let (outcome, room) := room.install bridge
      (.installed outcome, room)
  | .get => (.got room.slot.get, room)
  | .isReady => (.ready room.slot.isReady, room)
  | .poll => (.polled room.slot.ready?, room)
  | .await key => (.silent, room.await key)
  | .letRun position => (.silent, room.letRun perform position)
  | .settle => (.silent, room.settle perform)

def run (room : WaitingRoom β σ) (steps : List (SlotStep β)) : WaitingRoom β σ :=
  steps.foldl (fun room step => (take perform room step).2) room

def afterCalls (world : σ) (made : List (MadeCall β)) : σ :=
  made.foldl (fun world call =>
    (perform call.bridge (.saveSetting call.key (.bool true)) world).2) world

end Run

section Invariant

variable {β σ : Type} {perform : β → Performer σ} {world : σ} {first : Option β}
  {keys : List String} {made : List (MadeCall β)} {room : WaitingRoom β σ}

/-- The calls that were made, seen from a room: each is one of a finished task, and the world is as
they left it. -/
structure Reflects (perform : β → Performer σ) (world : σ) (first : Option β) (keys : List String)
    (made : List (MadeCall β)) (room : WaitingRoom β σ) : Prop where
  slot : room.slot.installed = first
  waiters : room.waiters.map (·.key) = keys
  finished : ∀ position waiter, room.waiters[position]? = some waiter →
    (waiter.finished = true ↔ position ∈ made.map (·.position))
  once : (made.map (·.position)).Nodup
  calls : ∀ call ∈ made, first = some call.bridge ∧ keys[call.position]? = some call.key
  world : room.world = afterCalls perform world made

theorem reflects_begin (perform : β → Performer σ) (world : σ) :
    Reflects perform world none [] [] (begin world) := by
  constructor
  case slot => rfl
  case waiters => rfl
  case finished =>
    intro position waiter present
    cases present
  case once => exact List.nodup_nil
  case calls => simp
  case world => rfl

theorem Reflects.length (reflects : Reflects perform world first keys made room) :
    room.waiters.length = keys.length := by
  rw [← reflects.waiters, List.length_map]

theorem Reflects.lt_of_mem (reflects : Reflects perform world first keys made room)
    {position : Nat} (member : position ∈ made.map (·.position)) : position < keys.length := by
  obtain ⟨call, known, rfl⟩ := List.mem_map.mp member
  obtain ⟨inRange, -⟩ := List.getElem?_eq_some_iff.mp (reflects.calls call known).2
  exact inRange

theorem Reflects.install (reflects : Reflects perform world first keys made room) (bridge : β) :
    Reflects perform world (first.or (some bridge)) keys made (room.install bridge).2 := by
  have slot : (room.install bridge).2.slot.installed = first.or (some bridge) := by
    rw [← reflects.slot]
    simp only [WaitingRoom.install, Slot.install]
    cases held : room.slot.installed <;> simp [held]
  refine ⟨slot, reflects.waiters, reflects.finished, reflects.once, ?_, reflects.world⟩
  intro call member
  obtain ⟨installed, key⟩ := reflects.calls call member
  exact ⟨by simp [installed], key⟩

theorem Reflects.await (reflects : Reflects perform world first keys made room) (key : String) :
    Reflects perform world first (keys ++ [key]) made (room.await key) := by
  refine ⟨reflects.slot, by simp [WaitingRoom.await, reflects.waiters], ?_, reflects.once, ?_,
    reflects.world⟩
  · intro position waiter present
    simp only [WaitingRoom.await] at present
    by_cases old : position < room.waiters.length
    · rw [List.getElem?_append_left old] at present
      exact reflects.finished position waiter present
    · -- The new task is not finished, and no call was made from its position.
      rw [List.getElem?_append_right (Nat.le_of_not_lt old)] at present
      have new := List.mem_singleton.mp (List.mem_of_getElem? present)
      rw [new]
      refine ⟨fun impossible => (by cases impossible), fun member => ?_⟩
      exact absurd (reflects.length ▸ reflects.lt_of_mem member) old
  · intro call member
    obtain ⟨installed, present⟩ := reflects.calls call member
    obtain ⟨inRange, -⟩ := List.getElem?_eq_some_iff.mp present
    exact ⟨installed, by rw [List.getElem?_append_left inRange, present]⟩

theorem Reflects.makeCall {bridge : β} {position : Nat} {waiter : Waiter}
    (reflects : Reflects perform world (some bridge) keys made room)
    (present : room.waiters[position]? = some waiter) (pending : waiter.finished = false) :
    Reflects perform world (some bridge) keys (made ++ [⟨bridge, position, waiter.key⟩])
      { room with
        waiters := room.waiters.set position { waiter with finished := true }
        world := (perform bridge waiter.call room.world).2 } := by
  have idle : position ∉ made.map (·.position) := by
    rw [← reflects.finished position waiter present, pending]
    exact Bool.false_ne_true
  have keysAt : keys[position]? = some waiter.key := by
    rw [← reflects.waiters, List.getElem?_map, present]
    rfl
  refine ⟨reflects.slot, ?_, ?_, ?_, ?_, ?_⟩
  · obtain ⟨inRange, rfl⟩ := List.getElem?_eq_some_iff.mp present
    have inKeys : position < (room.waiters.map (·.key)).length := by
      rw [List.length_map]
      exact inRange
    have sameKeys := List.set_getElem_self inKeys
    rw [List.getElem_map] at sameKeys
    rw [← reflects.waiters, List.map_set]
    exact sameKeys
  · intro other found there
    rw [List.map_append, List.mem_append]
    by_cases same : position = other
    · subst same
      obtain ⟨inRange, -⟩ := List.getElem?_eq_some_iff.mp present
      rw [List.getElem?_set_self inRange] at there
      cases there
      simp
    · rw [List.getElem?_set_ne same] at there
      rw [reflects.finished other found there]
      simp [Ne.symm same]
  · rw [List.map_append, List.nodup_append]
    refine ⟨reflects.once, by simp, ?_⟩
    rintro earlier before later added rfl
    have same : earlier = position := by simpa using added
    exact idle (same ▸ before)
  · intro call member
    rcases List.mem_append.mp member with before | added
    · exact reflects.calls call before
    · cases List.mem_singleton.mp added
      exact ⟨rfl, keysAt⟩
  · rw [reflects.world]
    unfold afterCalls
    rw [List.foldl_append]
    rfl

theorem Reflects.letRun (reflects : Reflects perform world first keys made room) (position : Nat) :
    ∃ more, Reflects perform world first keys more (room.letRun perform position) ∧
      ∀ other, other ∈ more.map (·.position) ↔
        other ∈ made.map (·.position) ∨
          first.isSome = true ∧ other < keys.length ∧ position = other := by
  have stays (done : first.isSome = true → position < keys.length →
      position ∈ made.map (·.position)) (same : room.letRun perform position = room) :
      ∃ more, Reflects perform world first keys more (room.letRun perform position) ∧
        ∀ other, other ∈ more.map (·.position) ↔
          other ∈ made.map (·.position) ∨
            first.isSome = true ∧ other < keys.length ∧ position = other := by
    refine ⟨made, by rw [same]; exact reflects, fun other => ⟨.inl, ?_⟩⟩
    rintro (before | ⟨installed, started, rfl⟩)
    · exact before
    · exact done installed started
  cases present : room.waiters[position]? with
  | none =>
      apply stays
      · intro _ started
        exact absurd (reflects.length ▸ started) (Nat.not_lt.mpr (List.getElem?_eq_none_iff.mp present))
      · simp only [WaitingRoom.letRun, present]
  | some waiter =>
      obtain ⟨inRange, atPosition⟩ := List.getElem?_eq_some_iff.mp present
      have sameWaiters : room.waiters.set position waiter = room.waiters := by
        rw [← atPosition, List.set_getElem_self]
      have started : position < keys.length := reflects.length ▸ inRange
      cases pending : waiter.finished with
      | true =>
          apply stays
          · exact fun _ _ => (reflects.finished position waiter present).mp pending
          · simp only [WaitingRoom.letRun, present, WaitingRoom.runWaiter, pending, sameWaiters]
      | false =>
          cases first with
          | none =>
              apply stays
              · exact fun impossible => absurd impossible Bool.false_ne_true
              · simp only [WaitingRoom.letRun, present, WaitingRoom.runWaiter, pending,
                  Slot.ready?, reflects.slot, sameWaiters]
          | some bridge =>
              refine ⟨made ++ [⟨bridge, position, waiter.key⟩], ?_, fun other => ?_⟩
              · simp only [WaitingRoom.letRun, present, WaitingRoom.runWaiter, pending,
                  Slot.ready?, reflects.slot]
                exact reflects.makeCall present pending
              · rw [List.map_append, List.mem_append]
                refine or_congr_right ?_
                simp only [List.map_cons, List.map_nil, List.mem_singleton, Option.isSome_some,
                  true_and]
                constructor
                · rintro rfl
                  exact ⟨started, rfl⟩
                · exact fun run => run.2.symm

theorem Reflects.letRunAll (reflects : Reflects perform world first keys made room)
    (positions : List Nat) :
    ∃ more, Reflects perform world first keys more (positions.foldl (WaitingRoom.letRun perform) room) ∧
      ∀ other, other ∈ more.map (·.position) ↔
        other ∈ made.map (·.position) ∨
          first.isSome = true ∧ other < keys.length ∧ other ∈ positions := by
  induction positions generalizing room made with
  | nil => exact ⟨made, reflects, by simp⟩
  | cons position rest ih =>
      obtain ⟨one, reflectsOne, addedOne⟩ := reflects.letRun position
      obtain ⟨more, reflectsMore, added⟩ := ih reflectsOne
      refine ⟨more, reflectsMore, fun other => ?_⟩
      rw [added, addedOne, List.mem_cons, or_assoc]
      refine or_congr_right ?_
      rw [← and_or_left, ← and_or_left, @eq_comm Nat position other]

/-- After a step the calls are those of the tasks that have run since a bridge was installed. -/
theorem Reflects.take {steps : List (SlotStep β)}
    (reflects : Reflects perform world (firstInstalled? steps) (awaitedKeys steps) made room)
    (known : ∀ position, position ∈ made.map (·.position) ↔ RunSinceInstalled steps position)
    (step : SlotStep β) :
    ∃ more, Reflects perform world (firstInstalled? (steps ++ [step]))
        (awaitedKeys (steps ++ [step])) more (room.take perform step).2 ∧
      ∀ position, position ∈ more.map (·.position) ↔
        RunSinceInstalled (steps ++ [step]) position := by
  simp only [firstInstalled?_append, awaitedKeys_append, runSinceInstalled_append, ← known]
  have noCall (noRun : ∀ position, ¬step.Runs position) (position : Nat) :
      position ∈ made.map (·.position) ↔ position ∈ made.map (·.position) ∨
        (firstInstalled? steps).isSome = true ∧ position < (awaitedKeys steps).length ∧
          step.Runs position := by
    simp [noRun position]
  have sameSlot : (firstInstalled? steps).or none = firstInstalled? steps := Option.or_none
  have sameKeys : awaitedKeys steps ++ [] = awaitedKeys steps := List.append_nil _
  cases step with
  | install bridge => exact ⟨made, sameKeys.symm ▸ reflects.install bridge, noCall fun _ => id⟩
  | await key => exact ⟨made, sameSlot.symm ▸ reflects.await key, noCall fun _ => id⟩
  | get => exact ⟨made, sameSlot.symm ▸ sameKeys.symm ▸ reflects, noCall fun _ => id⟩
  | isReady => exact ⟨made, sameSlot.symm ▸ sameKeys.symm ▸ reflects, noCall fun _ => id⟩
  | poll => exact ⟨made, sameSlot.symm ▸ sameKeys.symm ▸ reflects, noCall fun _ => id⟩
  | letRun position =>
      obtain ⟨more, reflectsMore, added⟩ := reflects.letRun position
      exact ⟨more, sameSlot.symm ▸ sameKeys.symm ▸ reflectsMore, added⟩
  | settle =>
      obtain ⟨more, reflectsMore, added⟩ := reflects.letRunAll (List.range room.waiters.length)
      refine ⟨more, sameSlot.symm ▸ sameKeys.symm ▸ reflectsMore, fun position => ?_⟩
      rw [added, List.mem_range, reflects.length]
      simp [SlotStep.Runs]

theorem Reflects.run {early : List (SlotStep β)}
    (reflects : Reflects perform world (firstInstalled? early) (awaitedKeys early) made room)
    (known : ∀ position, position ∈ made.map (·.position) ↔ RunSinceInstalled early position)
    (steps : List (SlotStep β)) :
    ∃ more, Reflects perform world (firstInstalled? (early ++ steps))
        (awaitedKeys (early ++ steps)) more (room.run perform steps) ∧
      ∀ position, position ∈ more.map (·.position) ↔
        RunSinceInstalled (early ++ steps) position := by
  induction steps generalizing early made room with
  | nil =>
      rw [List.append_nil]
      exact ⟨made, reflects, known⟩
  | cons step rest ih =>
      obtain ⟨one, reflectsOne, knownOne⟩ := reflects.take known step
      obtain ⟨more, reflectsMore, knownMore⟩ := ih reflectsOne knownOne
      rw [List.append_assoc, List.singleton_append] at reflectsMore knownMore
      exact ⟨more, reflectsMore, knownMore⟩

end Invariant

/-! ## The life of a slot -/

section Lifecycle

variable {β σ : Type}

/-- What is known of a slot, its bridges and its tasks after some steps. -/
structure Lifecycle (perform : β → Performer σ) (world : σ) (steps : List (SlotStep β))
    (room : WaitingRoom β σ) : Prop where
  install : ∀ bridge, (room.take perform (.install bridge)).1 =
    .installed (if (firstInstalled? steps).isSome then .error .alreadyInstalled else .ok ())
  get : (room.take perform .get).1 = .got ((firstInstalled? steps).elim (.error .unavailable) .ok)
  isReady : (room.take perform .isReady).1 = .ready (firstInstalled? steps).isSome
  poll : (room.take perform .poll).1 = .polled (firstInstalled? steps)
  tasks : room.waiters.map (·.key) = awaitedKeys steps
  calls : ∃ made : List (MadeCall β),
    room.world = afterCalls perform world made ∧
      (∀ call ∈ made, firstInstalled? steps = some call.bridge ∧
        (awaitedKeys steps)[call.position]? = some call.key) ∧
      (made.map (·.position)).Nodup ∧
      (∀ position, position ∈ made.map (·.position) ↔ RunSinceInstalled steps position) ∧
      ∀ position waiter, room.waiters[position]? = some waiter →
        (waiter.finished = true ↔ position ∈ made.map (·.position))

/-- Whatever bridges there are and whatever is done around a slot: the first installation alone
counts, and each task makes its one call on that bridge, when it first runs after it. -/
theorem slot_lifecycle (perform : β → Performer σ) (world : σ) (steps : List (SlotStep β)) :
    Lifecycle perform world steps ((begin world).run perform steps) := by
  have nobody : ∀ position, position ∈ ([] : List (MadeCall β)).map (·.position) ↔
      RunSinceInstalled ([] : List (SlotStep β)) position := by
    simp [RunSinceInstalled]
  obtain ⟨made, reflects, known⟩ := (reflects_begin perform world).run nobody steps
  rw [List.nil_append] at reflects known
  constructor
  case install =>
    intro bridge
    simp only [take, install, Slot.install, reflects.slot]
    cases firstInstalled? steps <;> rfl
  case get =>
    simp only [take, Slot.get, reflects.slot]
    cases firstInstalled? steps <;> rfl
  case isReady => simp only [take, Slot.isReady, reflects.slot]
  case poll => simp only [take, Slot.ready?, reflects.slot]
  case tasks => exact reflects.waiters
  case calls => exact ⟨made, reflects.world, reflects.calls, reflects.once, known, reflects.finished⟩

end Lifecycle

end WaitingRoom

end WebviewHost.Bridge
