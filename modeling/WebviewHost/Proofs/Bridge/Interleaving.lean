import WebviewHost.Proofs.Bridge.Restart
import WebviewHost.Proofs.Bridge.Serving

/-!
# Calls in any order

Calls in flight take their steps in any order, and any action of the file system may be refused in
any step. The document is the loaded one with the writes that took effect, in the order of the lock,
and the calls answer as if they had been made one after another.
-/

set_option autoImplicit false

namespace WebviewHost.Bridge

open WebviewHost.Files (Disk Faults)
open WebviewHost.Settings (Faithful Store Shallow fileText isReserved lastDirectoryKey
  readDocument)
open WebviewHost.Settings.Store (Holds Untouched)
open WebviewHost.Settings.Store.History (applied)

/-- A call whose payload is a value with ordered members whose numbers read back. -/
def Call.ReadsBack : Call → Prop
  | .saveSession tokens _ => tokens.Ordered ∧ tokens.AllNumbers Number.ReadsBack
  | .saveSetting _ value => value.Ordered ∧ value.AllNumbers Number.ReadsBack
  | _ => True

/-- A call whose payload was read from some text. -/
def Call.FromText : Call → Prop
  | .saveSession tokens _ => ∃ text, Json.read? text = some tokens
  | .saveSetting _ value => ∃ text, Json.read? text = some value
  | _ => True

theorem Call.ReadsBack.change {call : Call} (reads : call.ReadsBack)
    {change : String × Json} (wanted : call.change? = some change) :
    change.2.Ordered ∧ change.2.AllNumbers Number.ReadsBack := by
  cases call with
  | selectFolder => cases wanted
  | getSession => cases wanted
  | getSetting key => cases wanted
  | saveSession tokens host =>
      cases wanted
      exact ⟨StoredBridge.ordered_toStored reads.1 host, trivial, reads.2, trivial⟩
  | clearSession =>
      cases wanted
      exact ⟨trivial, trivial⟩
  | saveSetting key value =>
      simp only [Call.change?, Option.ite_none_left_eq_some, Option.some.injEq] at wanted
      rw [← wanted.2]
      exact reads

structure Kept (directory : String) (first : Store) (opened : Disk)
    (landed : List (String × Json)) (store : Store) (disk : Disk) : Prop where
  isOpen : store.OpenIn directory
  path : store.path = first.path
  memory : store.document = applied first.document landed
  idle : landed = [] → Untouched first.path opened disk
  written : landed ≠ [] → Holds first.path (fileText store.document) disk

theorem kept_first {directory : String} {store : Store} (isOpen : store.OpenIn directory)
    (disk : Disk) : Kept directory store disk [] store disk :=
  ⟨isOpen, rfl, rfl, fun _ => rfl, fun changed => absurd rfl changed⟩

theorem Kept.lose {directory : String} {first store : Store} {opened disk left : Disk}
    {landed : List (String × Json)} (kept : Kept directory first opened landed store disk)
    (untouched : Untouched store.path disk left) :
    Kept directory first opened landed store left := by
  rw [kept.path] at untouched
  constructor
  case isOpen => exact kept.isOpen
  case path => exact kept.path
  case memory => exact kept.memory
  case idle =>
    intro unchanged
    exact Eq.trans untouched (kept.idle unchanged)
  case written =>
    intro changed
    exact (kept.written changed).of_untouched untouched

theorem Kept.land {directory : String} {first store : Store} {opened disk left : Disk}
    {landed : List (String × Json)} (kept : Kept directory first opened landed store disk)
    (key : String) (value : Json)
    (holds : Holds store.path (fileText (Members.insert key value store.document)) left) :
    Kept directory first opened (landed ++ [(key, value)])
      ⟨store.path, Members.insert key value store.document⟩ left := by
  rw [kept.path] at holds
  constructor
  case isOpen => exact kept.isOpen.insert key value
  case path => exact kept.path
  case memory =>
    unfold applied
    rw [List.foldl_append, kept.memory]
    rfl
  case idle =>
    intro unchanged
    exact absurd unchanged (List.append_ne_nil_of_right_ne_nil _ (List.cons_ne_nil _ _))
  case written =>
    intro _
    exact holds

namespace Crowd

def servicesOf (crowd : Crowd) (caller : Nat) : List Service :=
  crowd.services.filter (·.caller == caller)

/-- What has been done for a call that has come as far as a stage: it is served once, and it is
answered what it was served. -/
def Accounts (crowd : Crowd) (caller : Nat) (call : Call) : Stage → Prop
  | .waiting waiting => waiting = call ∧ crowd.servicesOf caller = []
  | .choosing start =>
      call = .selectFolder ∧ crowd.bridge.picker.isSome = true ∧ crowd.servicesOf caller = [] ∧
        ∃ served, ⟨caller, start, served⟩ ∈ crowd.dialogs
  | .chosen _ =>
      call = .selectFolder ∧ crowd.bridge.picker.isSome = true ∧ crowd.servicesOf caller = []
  | .answered answer =>
      ∃ service, crowd.servicesOf caller = [service] ∧ service.call = call ∧ service.answer = answer

/-- What is known of a crowd after any steps. -/
structure Follows (directory : String) (first : StoredBridge) (opened : Disk) (calls : List Call)
    (crowd : Crowd) : Prop
    extends Kept directory first.store opened crowd.landed crowd.bridge.store crowd.disk where
  picker : crowd.bridge.picker = first.picker
  inTurn : Service.inTurn first.picker.isSome crowd.services first.store opened =
    (crowd.services.map (·.answer), crowd.bridge.store, crowd.disk)
  dialogs : ∀ dialog ∈ crowd.dialogs, dialog.served ≤ crowd.services.length ∧
    dialog.start = StoredBridge.startDirectory
      ⟨(Service.inTurn first.picker.isSome (crowd.services.take dialog.served) first.store
        opened).2.1, none⟩
  length : crowd.stages.length = calls.length
  accounts : ∀ caller call stage, calls[caller]? = some call →
    crowd.stages[caller]? = some stage → crowd.Accounts caller call stage
  made : ∀ service ∈ crowd.services,
    calls[service.caller]? = some service.call ∧ service.Honest

section Steps

variable {directory : String} {first : StoredBridge} {opened : Disk} {calls : List Call}
  {crowd : Crowd}

theorem follows_begin (isOpen : first.store.OpenIn directory) (opened : Disk) (calls : List Call) :
    Follows directory first opened calls (begin first opened calls) := by
  constructor
  case toKept => exact kept_first isOpen opened
  case picker => rfl
  case inTurn => rfl
  case dialogs =>
    intro dialog member
    cases member
  case length => exact List.length_map _
  case accounts =>
    intro caller call stage here found
    simp only [begin, List.getElem?_map, here, Option.map_some, Option.some.injEq] at found
    subst found
    exact ⟨rfl, rfl⟩
  case made =>
    intro service member
    cases member

theorem servicesOf_serve (crowd : Crowd) (step : Step) (call : Call) (pick : Pick)
    (outcome : Answer × StoredBridge × Disk) (caller : Nat) :
    (crowd.serve step call pick outcome).servicesOf caller =
      if step.caller = caller then crowd.servicesOf caller ++ [⟨step.caller, call, step.faults, pick,
        outcome.1, crowd.bridge.landed? step.faults crowd.disk (call.write? pick crowd.disk)⟩]
      else crowd.servicesOf caller := by
  unfold servicesOf serve
  dsimp only
  rw [List.filter_append]
  by_cases same : step.caller = caller
  · simp [same]
  · simp [same]

theorem landed_serve (crowd : Crowd) (step : Step) (call : Call) (pick : Pick)
    (outcome : Answer × StoredBridge × Disk) :
    (crowd.serve step call pick outcome).landed = crowd.landed ++
      (crowd.bridge.landed? step.faults crowd.disk (call.write? pick crowd.disk)).toList := by
  unfold landed serve
  rw [List.filterMap_append]
  cases crowd.bridge.landed? step.faults crowd.disk (call.write? pick crowd.disk) <;> rfl

theorem Accounts.of_same {other : Crowd} {caller : Nat} {call : Call} {stage : Stage}
    (accounts : crowd.Accounts caller call stage)
    (services : other.servicesOf caller = crowd.servicesOf caller)
    (picker : other.bridge.picker = crowd.bridge.picker)
    (dialogs : crowd.dialogs ⊆ other.dialogs) : other.Accounts caller call stage := by
  cases stage with
  | waiting waiting =>
      obtain ⟨same, nothing⟩ := accounts
      exact ⟨same, services.trans nothing⟩
  | choosing start =>
      obtain ⟨same, attached, nothing, served, opened⟩ := accounts
      exact ⟨same, picker ▸ attached, services.trans nothing, served, dialogs opened⟩
  | chosen pick =>
      obtain ⟨same, attached, nothing⟩ := accounts
      exact ⟨same, picker ▸ attached, services.trans nothing⟩
  | answered answer =>
      obtain ⟨service, only, same, told⟩ := accounts
      exact ⟨service, services.trans only, same, told⟩

/-- A step that takes its caller to another stage leaves the others where they are. -/
theorem Follows.accounts_set (follows : Follows directory first opened calls crowd) {next : Crowd}
    (caller : Nat) (later : Stage) (stages : next.stages = crowd.stages.set caller later)
    (own : ∀ call, calls[caller]? = some call → next.Accounts caller call later)
    (others : ∀ other call stage, caller ≠ other → crowd.Accounts other call stage →
      next.Accounts other call stage) :
    ∀ other call stage, calls[other]? = some call → next.stages[other]? = some stage →
      next.Accounts other call stage := by
  intro other call stage made found
  rw [stages] at found
  by_cases same : caller = other
  · subst same
    have inside : caller < crowd.stages.length := by
      rw [follows.length]
      exact (List.getElem?_eq_some_iff.mp made).1
    rw [List.getElem?_set_self inside, Option.some.injEq] at found
    subst found
    exact own call made
  · rw [List.getElem?_set_ne same] at found
    exact others other call stage same (follows.accounts other call stage made found)

theorem Follows.serve (follows : Follows directory first opened calls crowd) {step : Step}
    {call : Call} {pick : Pick} {outcome : Answer × StoredBridge × Disk}
    (here : calls[step.caller]? = some call) (fresh : crowd.servicesOf step.caller = [])
    (serves : Serves crowd.bridge crowd.disk step.faults call pick outcome
      (crowd.bridge.landed? step.faults crowd.disk (call.write? pick crowd.disk))) :
    Follows directory first opened calls (crowd.serve step call pick outcome) := by
  have samePicker := serves.picker
  have landed := landed_serve crowd step call pick outcome
  -- The write of this call, if it took effect, is the last one.
  have kept : Kept directory first.store opened (crowd.serve step call pick outcome).landed
      outcome.2.1.store outcome.2.2 := by
    rcases serves.effect with ⟨nothing, same, untouched⟩ | ⟨key, value, written, same, holds⟩
    · rw [nothing, Option.toList_none, List.append_nil] at landed
      rw [landed, same]
      exact follows.lose untouched
    · rw [written, Option.toList_some] at landed
      rw [landed, same]
      exact follows.land key value holds
  constructor
  case toKept => exact kept
  case picker => exact samePicker.trans follows.picker
  case inTurn =>
    have last := serves.alone step.caller
    rw [follows.picker] at last
    unfold Crowd.serve
    dsimp only
    rw [Service.inTurn_concat, follows.inTurn]
    dsimp only
    rw [last, List.map_append]
    rfl
  case dialogs =>
    intro dialog member
    obtain ⟨early, start⟩ := follows.dialogs dialog member
    refine ⟨?_, ?_⟩
    · unfold Crowd.serve
      rw [List.length_append]
      exact Nat.le_add_right_of_le early
    · unfold Crowd.serve
      rw [List.take_append_of_le_length early]
      exact start
  case length =>
    unfold Crowd.serve
    rw [List.length_set]
    exact follows.length
  case accounts =>
    refine follows.accounts_set step.caller (.answered outcome.1) rfl ?_ ?_
    · intro other made
      have services := servicesOf_serve crowd step call pick outcome step.caller
      rw [if_pos rfl, fresh, List.nil_append] at services
      exact ⟨_, services, Option.some.inj (here.symm.trans made), rfl⟩
    · intro caller other stage apart accounts
      have services := servicesOf_serve crowd step call pick outcome caller
      rw [if_neg apart] at services
      exact accounts.of_same services samePicker (List.Subset.refl _)
  case made =>
    intro service member
    rcases List.mem_append.mp member with old | new
    · exact follows.made service old
    · rw [List.mem_singleton.mp new]
      exact ⟨here, serves.honest step.caller⟩

theorem Follows.move (follows : Follows directory first opened calls crowd) (caller : Nat)
    (later : Stage) (more : List Dialog)
    (opens : ∀ dialog ∈ more, dialog.served = crowd.services.length ∧
      dialog.start = crowd.bridge.startDirectory)
    (own : ∀ call, calls[caller]? = some call →
      (crowd.move caller later more).Accounts caller call later) :
    Follows directory first opened calls (crowd.move caller later more) := by
  constructor
  case toKept => exact follows.toKept
  case picker => exact follows.picker
  case inTurn => exact follows.inTurn
  case dialogs =>
    intro dialog member
    rcases List.mem_append.mp member with old | new
    · exact follows.dialogs dialog old
    · obtain ⟨served, start⟩ := opens dialog new
      refine ⟨Nat.le_of_eq served, ?_⟩
      rw [served, start]
      unfold Crowd.move
      rw [List.take_length, follows.inTurn]
      rfl
  case length => exact (List.length_set).trans follows.length
  case accounts =>
    refine follows.accounts_set caller later rfl own ?_
    intro other call stage _ accounts
    exact accounts.of_same rfl rfl (List.subset_append_left _ _)
  case made => exact follows.made

theorem Follows.advance (follows : Follows directory first opened calls crowd) {step : Step}
    {stage : Stage} (found : crowd.stages[step.caller]? = some stage) :
    Follows directory first opened calls (crowd.advance step stage) := by
  have inside : step.caller < calls.length := by
    rw [← follows.length]
    exact (List.getElem?_eq_some_iff.mp found).1
  obtain ⟨call, here⟩ : ∃ call, calls[step.caller]? = some call :=
    ⟨_, List.getElem?_eq_getElem inside⟩
  have accounts := follows.accounts step.caller call stage here found
  -- Only a waiting selection with a picker and a closing dialog serve nothing.
  cases stage with
  | waiting waiting =>
      obtain ⟨rfl, fresh⟩ := accounts
      by_cases dialog : waiting = .selectFolder
      · subst dialog
        unfold Crowd.advance
        cases attached : crowd.bridge.picker with
        | none => exact follows.serve here fresh (serves_noPicker attached step.faults crowd.disk)
        | some picker =>
            dsimp only
            refine follows.move _ _ _ ?_ ?_
            · intro dialog member
              rw [List.mem_singleton.mp member]
              exact ⟨rfl, rfl⟩
            · intro call made
              refine ⟨Option.some.inj (made.symm.trans here), ?_, fresh, crowd.services.length, ?_⟩
              · show crowd.bridge.picker.isSome = true
                rw [attached]
                rfl
              · exact List.mem_append_right _ (List.mem_singleton.mpr rfl)
      · have served : crowd.advance step (.waiting waiting) =
            crowd.serve step waiting (.ok none)
              (StoredBridge.perform step.faults waiting (crowd.bridge, crowd.disk)) := by
          cases waiting with
          | selectFolder => exact absurd rfl dialog
          | _ => rfl
        rw [served]
        exact follows.serve here fresh (serves_perform follows.isOpen dialog step.faults crowd.disk)
  | choosing start =>
      obtain ⟨rfl, attached, fresh, _⟩ := accounts
      refine follows.move step.caller (.chosen step.pick) [] (List.forall_mem_nil _) ?_
      intro call made
      exact ⟨Option.some.inj (made.symm.trans here), attached, fresh⟩
  | chosen pick =>
      obtain ⟨rfl, attached, fresh⟩ := accounts
      exact follows.serve here fresh
        (serves_finishSelection follows.isOpen attached step.faults pick crowd.disk)
  | answered answer => exact follows

theorem Follows.run (follows : Follows directory first opened calls crowd) (steps : List Step) :
    Follows directory first opened calls (crowd.run steps) := by
  induction steps generalizing crowd with
  | nil => exact follows
  | cons step rest ih =>
      apply ih
      unfold next
      split
      · rename_i stage found
        exact follows.advance found
      · exact follows

/-! ## Calls come to an end -/

theorem stages_advance {step : Step} {stage : Stage}
    (found : crowd.stages[step.caller]? = some stage) :
    ∃ later, (crowd.advance step stage).stages = crowd.stages.set step.caller later ∧
      later.remaining ≤ stage.remaining - 1 := by
  cases stage with
  | waiting call =>
      cases call with
      | selectFolder =>
          unfold Crowd.advance
          cases crowd.bridge.picker with
          | none => exact ⟨_, rfl, Nat.zero_le _⟩
          | some picker => exact ⟨_, rfl, Nat.le_refl 2⟩
      | _ => exact ⟨_, rfl, Nat.zero_le _⟩
  | choosing start => exact ⟨_, rfl, Nat.le_refl 1⟩
  | chosen pick => exact ⟨_, rfl, Nat.le_refl 0⟩
  | answered answer =>
      obtain ⟨inside, here⟩ := List.getElem?_eq_some_iff.mp found
      have same : crowd.stages.set step.caller (.answered answer) = crowd.stages := by
        rw [← here, List.set_getElem_self]
      exact ⟨.answered answer, same.symm, Nat.le_refl 0⟩

/-- Each step brings its caller nearer to the answer and leaves the others where they are. -/
theorem remaining_next (step : Step) {caller : Nat} {stage : Stage}
    (found : crowd.stages[caller]? = some stage) :
    ∃ later, (crowd.next step).stages[caller]? = some later ∧
      later.remaining ≤ stage.remaining - if step.caller == caller then 1 else 0 := by
  unfold next
  by_cases same : step.caller = caller
  · subst same
    obtain ⟨later, moved, nearer⟩ := stages_advance found
    have inside : step.caller < crowd.stages.length := (List.getElem?_eq_some_iff.mp found).1
    simp only [found, moved, List.getElem?_set_self inside, beq_self_eq_true, if_true]
    exact ⟨later, rfl, nearer⟩
  · have other : (step.caller == caller) = false := by simpa using same
    rw [other]
    cases turn : crowd.stages[step.caller]? with
    | none => exact ⟨stage, found, Nat.le_refl _⟩
    | some own =>
        obtain ⟨later, moved, _⟩ := stages_advance turn
        simp only [moved, List.getElem?_set_ne same]
        exact ⟨stage, found, Nat.le_refl _⟩

theorem remaining_run (steps : List Step) {caller : Nat} {stage : Stage}
    (found : crowd.stages[caller]? = some stage) :
    ∃ later, (crowd.run steps).stages[caller]? = some later ∧
      later.remaining ≤ stage.remaining - steps.countP (·.caller == caller) := by
  induction steps generalizing crowd stage with
  | nil => exact ⟨stage, found, Nat.le_refl _⟩
  | cons step rest ih =>
      obtain ⟨middle, there, nearer⟩ := remaining_next step found
      obtain ⟨later, reached, near⟩ := ih there
      refine ⟨later, reached, ?_⟩
      rw [List.countP_cons]
      omega

/-! ## What is read back -/

theorem Follows.origin (follows : Follows directory first opened calls crowd)
    {change : String × Json} (member : change ∈ crowd.landed) :
    (∃ call ∈ calls, call.change? = some change) ∨ ∃ folder, change.2 = .string folder := by
  obtain ⟨service, served, landed⟩ := List.mem_filterMap.mp member
  obtain ⟨made, honest⟩ := follows.made service served
  cases wanted : service.call.change? with
  | some write =>
      rcases honest.write write wanted with ⟨_, same⟩ | ⟨_, nothing⟩
      · cases landed.symm.trans same
        exact .inl ⟨service.call, List.mem_of_getElem? made, wanted⟩
      · cases landed.symm.trans nothing
  | none =>
      by_cases dialog : service.call = .selectFolder
      · obtain ⟨folder, _, same⟩ := honest.folder dialog change landed
        exact .inr ⟨folder, congrArg Prod.snd same⟩
      · cases landed.symm.trans (honest.look wanted dialog)

theorem faithful_applied {document : Members} (faithful : Faithful document)
    {changes : List (String × Json)}
    (each : ∀ change ∈ changes, change.2.Ordered ∧ change.2.AllNumbers Number.ReadsBack) :
    Faithful (applied document changes) := by
  induction changes generalizing document with
  | nil => exact faithful
  | cons change rest ih =>
      obtain ⟨⟨ordered, numbers⟩, others⟩ := List.forall_mem_cons.mp each
      exact ih (faithful.insert change.1 ordered numbers) others

theorem Follows.faithful (follows : Follows directory first opened calls crowd)
    (loaded : Faithful first.store.document) (payloads : ∀ call ∈ calls, call.ReadsBack) :
    Faithful crowd.bridge.store.document := by
  have each : ∀ change ∈ crowd.landed, change.2.Ordered ∧ change.2.AllNumbers Number.ReadsBack := by
    intro change member
    rcases follows.origin member with ⟨call, made, wanted⟩ | ⟨folder, same⟩
    · exact (payloads call made).change wanted
    · rw [same]
      exact ⟨trivial, trivial⟩
  rw [follows.memory]
  exact faithful_applied loaded each

end Steps

/-- What is known of calls in flight after any steps: no write that took effect is lost, and every
call comes to its answer. -/
structure Orderly (directory : String) (first : StoredBridge) (opened : Disk) (calls : List Call)
    (steps : List Step) (crowd : Crowd) : Prop
    extends Follows directory first opened calls crowd where
  last : ∀ key, crowd.bridge.store.get? key =
    (Members.get? crowd.landed.reverse key).or (first.store.get? key)
  distinct : (crowd.landed.map (·.1)).Nodup → ∀ key value, (key, value) ∈ crowd.landed →
    crowd.bridge.store.get? key = some value
  answered : ∀ caller < calls.length, 3 ≤ steps.countP (·.caller == caller) →
    ∃ answer, crowd.stages[caller]? = some (.answered answer)
  readBack : Json.AllNumbersMembers Number.Exact first.store.document →
    (∀ call ∈ calls, call.ReadsBack) → crowd.landed ≠ [] →
      ∃ content, Holds first.store.path content crowd.disk ∧
        (readDocument content = crowd.bridge.store.document ↔
          Shallow crowd.bridge.store.document)

/-- Calls in flight lose no update, whatever the order of their steps, whichever writes fail and
whatever the dialogs answer. What is written is also read back if its numbers are. -/
theorem run_orderly {faults : Faults} {directory : String} {disk opened : Disk}
    {bridge : StoredBridge}
    (isOpen : StoredBridge.openIn faults directory disk = (.ok bridge, opened))
    (picker : Option Picker) (calls : List Call) (steps : List Step) :
    Orderly directory { bridge with picker } opened calls steps
      ((begin { bridge with picker } opened calls).run steps) := by
  obtain ⟨opening, _⟩ := StoredBridge.openIn_eq_ok isOpen
  obtain ⟨settled, accepted⟩ := Store.settled_of_openIn opening
  have stored : ({ bridge with picker } : StoredBridge).store.OpenIn directory := settled.isOpen
  have follows := (follows_begin stored opened calls).run steps
  constructor
  case toFollows => exact follows
  case last =>
    intro key
    unfold Store.get?
    rw [follows.memory]
    exact Settings.Store.History.get?_applied _ _ key
  case distinct =>
    intro distinct key value member
    unfold Store.get?
    rw [follows.memory, Settings.Store.History.get?_applied]
    have reversed : (((begin { bridge with picker } opened calls).run steps).landed.reverse.map
        (·.1)).Nodup := by
      rw [List.map_reverse]
      exact List.pairwise_reverse.mpr (List.Pairwise.imp Ne.symm distinct)
    rw [Members.get?_eq_some_of_nodup reversed (List.mem_reverse.mpr member)]
    rfl
  case answered =>
    intro caller inside enough
    have found : (begin { bridge with picker } opened calls).stages[caller]? =
        some (.waiting calls[caller]) := by
      simp [begin, inside]
    obtain ⟨later, reached, near⟩ := remaining_run steps found
    have finished : later.remaining = 0 :=
      Nat.le_zero.mp (Nat.le_trans near (Nat.le_of_eq (Nat.sub_eq_zero_of_le enough)))
    cases later with
    | answered answer => exact ⟨answer, reached⟩
    | waiting call => cases finished
    | choosing start => cases finished
    | chosen pick => cases finished
  case readBack =>
    intro doubles payloads changed
    have loaded := (Settings.faithful_of_accepted settled.isOpen.loaded accepted doubles).1
    have faithful := follows.faithful loaded payloads
    exact ⟨_, follows.written changed, Settings.readDocument_fileText_eq_iff faithful⟩

/-- A folder dialog during which another folder is remembered and a write fails. -/
def sampleCalls : List Call :=
  [.selectFolder, .saveSetting lastDirectoryKey (.string "/other"), .saveSession .null "host"]

def sampleSteps : List Step := [
  ⟨0, .none, .ok none⟩,
  ⟨1, .none, .ok none⟩,
  ⟨0, .none, .ok (some "/shots".toUTF8.toList)⟩,
  ⟨2, .at .publish .noSpaceLeft, .ok none⟩,
  ⟨0, .none, .ok none⟩]

theorem run_orderly_sample :
    Orderly "/data" { StoredBridge.dataBridge with picker := some (.prepared [] []) }
      (StoredBridge.dataDisk (fileText Settings.defaults)) sampleCalls sampleSteps
      ((begin { StoredBridge.dataBridge with picker := some (.prepared [] []) }
        (StoredBridge.dataDisk (fileText Settings.defaults)) sampleCalls).run sampleSteps) :=
  run_orderly StoredBridge.openIn_dataDisk _ sampleCalls sampleSteps

/-! ## A number that is not read back -/

/-- The file of every document that is not too deep is read back as that document, as long as the
payloads of all calls were read from some text. -/
def AlwaysReadsBack : Prop :=
  ∀ (faults : Faults) (directory : String) (disk opened : Disk) (bridge : StoredBridge)
    (calls : List Call) (steps : List Step),
    StoredBridge.openIn faults directory disk = (.ok bridge, opened) →
    (∀ call ∈ calls, call.FromText) →
    let crowd := (begin bridge opened calls).run steps
    crowd.landed ≠ [] → Shallow crowd.bridge.store.document →
      ∀ content, Holds bridge.store.path content crowd.disk →
        readDocument content = crowd.bridge.store.document

/-- What the literal `3e49` is read as. The text of this double is read as the double below it. -/
def driftingNumber : Number := .double ⟨false, ⟨5777789833161707, 112⟩⟩

def numberBelow : Number := .double ⟨false, ⟨5777789833161706, 112⟩⟩

def driftingDocument : Members :=
  Members.insert "scale" (.number driftingNumber) Settings.defaults

def numberOf? : Json → Option Number
  | .number value => some value
  | _ => none

def driftingCalls : List Call := [.saveSetting "scale" (.number driftingNumber)]

theorem shallow_driftingDocument : Shallow driftingDocument := by
  unfold Shallow
  decide

theorem number_of_numberOf? {value : Json} {number : Number}
    (same : numberOf? value = some number) : value = .number number := by
  cases value <;> cases same
  rfl

theorem read?_driftingNumber : Json.read? "3e49" = some (.number driftingNumber) := by
  have read : (Json.read? "3e49").bind numberOf? = some driftingNumber := by decide +kernel
  obtain ⟨value, found, same⟩ := Option.bind_eq_some_iff.mp read
  rw [found, number_of_numberOf? same]

theorem readDocument_driftingDocument :
    readDocument (fileText driftingDocument) ≠ driftingDocument := by
  have read : ((Json.read? (Json.pretty (.object driftingDocument))).bind (·.member? "scale")).bind
      numberOf? = some numberBelow := by
    rw [Json.read?_pretty_eq]
    decide +kernel
  obtain ⟨found, member, same⟩ := Option.bind_eq_some_iff.mp read
  obtain ⟨value, whole, inside⟩ := Option.bind_eq_some_iff.mp member
  intro kept
  have drifted := Settings.get?_readDocument_fileText whole inside
  rw [kept, driftingDocument, Members.get?_insert, if_pos rfl, number_of_numberOf? same] at drifted
  cases drifted

theorem not_alwaysReadsBack : ¬ AlwaysReadsBack := by
  intro always
  have isOpen := StoredBridge.settled_dataBridge.store.isOpen
  obtain ⟨left, written, _⟩ := StoredBridge.persist_of_writable isOpen
    (StoredBridge.writable_dataDisk (fileText Settings.defaults)) "scale" (.number driftingNumber)
  have follows := (follows_begin isOpen (StoredBridge.dataDisk (fileText Settings.defaults))
    driftingCalls).run [⟨0, .none, .ok none⟩]
  have landed : ((begin StoredBridge.dataBridge
      (StoredBridge.dataDisk (fileText Settings.defaults)) driftingCalls).run
        [⟨0, .none, .ok none⟩]).landed = [("scale", .number driftingNumber)] := by
    refine (landed_serve (begin StoredBridge.dataBridge
      (StoredBridge.dataDisk (fileText Settings.defaults)) driftingCalls) ⟨0, .none, .ok none⟩
      (.saveSetting "scale" (.number driftingNumber)) (.ok none) _).trans ?_
    have noted : StoredBridge.dataBridge.landed? .none
        (StoredBridge.dataDisk (fileText Settings.defaults))
        (some ("scale", .number driftingNumber)) = some ("scale", .number driftingNumber) := by
      simp [StoredBridge.landed?, ← StoredBridge.fst_persist, written]
    exact congrArg Option.toList noted
  have memory := follows.memory
  have holds := follows.written (by simp [landed])
  rw [landed] at memory
  have fromText : ∀ call ∈ driftingCalls, call.FromText := by
    intro call member
    rw [List.mem_singleton.mp member]
    exact ⟨"3e49", read?_driftingNumber⟩
  have kept := always .none "/data" _ _ StoredBridge.dataBridge driftingCalls
    [⟨0, .none, .ok none⟩] StoredBridge.openIn_dataDisk fromText (by simp [landed])
    (memory ▸ shallow_driftingDocument) _ holds
  rw [memory] at kept
  exact readDocument_driftingDocument kept

end Crowd

end WebviewHost.Bridge
