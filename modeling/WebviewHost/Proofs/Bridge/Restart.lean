import WebviewHost.Proofs.Bridge.Refinement
import WebviewHost.Proofs.Settings.Reload

/-!
# Restarting a bridge

A bridge may be dropped and opened again between any two requests. Nobody notices as long as what is
saved is less deep than the reader allows by the levels that the document and the session add around
it. A value at the reader's own limit is taken and said to be written, but the file with it is not
read again.
-/

set_option autoImplicit false

namespace WebviewHost.Bridge

open WebviewHost.Files (Disk Entry Faults)
open WebviewHost.Settings (SessionRecord Store StoreError readDocument fileText)

/-- What happens to a bridge: a request, or dropping it and opening its directory again. -/
inductive Turn where
  | request (request : Request)
  | restart

def Turn.isRequest : Turn → Bool
  | .request _ => true
  | .restart => false

/-- The responses to the requests among some turns, the file system working as it should. -/
def StoredBridge.runTurns (directory : String) :
    List Turn → StoredBridge × Disk → Except StoreError (List Response)
  | [], _ => .ok []
  | .request request :: rest, state =>
      let (response, state) := respond .none request state
      (runTurns directory rest state).map (response :: ·)
  | .restart :: rest, (_, disk) =>
      match openIn .none directory disk with
      | (.ok bridge, disk) => runTurns directory rest (bridge, disk)
      | (.error error, _) => .error error

/-- A value as it comes from a command line: the reader accepts some text for it. Of its doubles it
is known that they read back. -/
structure Readable (value : Json) : Prop where
  read : ∃ text, Json.read? text = some value
  doubles : value.AllNumbers Number.Exact

/-- A request about settings and the session whose values come from a command line and are not
deeper than some bounds. -/
def Request.Within (settingDepth tokensDepth : Nat) : Request → Prop
  | .call (.saveSetting _ value) => Readable value ∧ value.depth ≤ settingDepth
  | .call (.saveSession tokens _) => Readable tokens ∧ tokens.depth ≤ tokensDepth
  | .call .selectFolder => False
  | _ => True

namespace StoredBridge

/-- Restarts are not noticed: whatever the data directory holds at first, all requests are answered
as they are without any restart. -/
def RestartTransparent (settingDepth tokensDepth : Nat) : Prop :=
  ∀ (directory : String) (disk opened : Disk) (bridge : StoredBridge) (turns : List Turn),
    openIn .none directory disk = (.ok bridge, opened) →
    Json.AllNumbersMembers Number.Exact bridge.store.document →
    (∀ request, .request request ∈ turns → request.Within settingDepth tokensDepth) →
    runTurns directory turns (bridge, opened) =
      runTurns directory (turns.filter Turn.isRequest) (bridge, opened)

/-- A bridge that is the same again when its directory is opened. -/
structure Settled (directory : String) (bridge : StoredBridge) (disk : Disk) : Prop where
  store : bridge.store.Settled directory disk
  picker : bridge.picker = none
  faithful : Settings.Faithful bridge.store.document
  shallow : Settings.Shallow bridge.store.document

theorem Settled.openIn_eq {directory : String} {bridge : StoredBridge} {disk : Disk}
    (settled : Settled directory bridge disk) :
    openIn .none directory disk = (.ok bridge, disk) := by
  unfold openIn
  rw [settled.store.openIn_eq]
  simp only [← settled.picker]

theorem Settled.persist {directory : String} {bridge : StoredBridge} {disk : Disk}
    (settled : Settled directory bridge disk) (faults : Faults) (key : String) {value : Json}
    (ordered : value.Ordered) (numbers : value.AllNumbers Number.ReadsBack)
    (flat : value.depth < Json.depthLimit) :
    Settled directory (bridge.persist faults key value disk).2.1
      (bridge.persist faults key value disk).2.2 := by
  have faithful := settled.faithful.insert key ordered numbers
  have shallow := settled.shallow.insert key flat
  have read : readDocument (fileText (Members.insert key value bridge.store.document)) =
      Members.insert key value bridge.store.document := by
    rw [Settings.readDocument_fileText faithful]
    exact if_pos shallow
  have stored := settled.store.set faults key value read
  unfold StoredBridge.persist
  rcases Store.set_eq settled.store.isOpen faults key value disk with
    ⟨_, done⟩ | ⟨_, error, failed⟩
  · rw [done] at stored ⊢
    exact ⟨stored, settled.picker, faithful, shallow⟩
  · rw [failed] at stored ⊢
    exact ⟨stored, settled.picker, settled.faithful, settled.shallow⟩

theorem depth_toStored (tokens : Json) (host : String) :
    (SessionRecord.toStored ⟨tokens, host⟩).depth = tokens.depth + 1 := by
  simp [SessionRecord.toStored, Json.depth, Json.depthMembers]

theorem readable_spec {value : Json} (readable : Readable value) :
    value.Ordered ∧ value.AllNumbers Number.ReadsBack := by
  obtain ⟨text, read⟩ := readable.read
  have accepted := Json.accepted_of_read? read
  exact ⟨accepted.ordered, accepted.readsBack readable.doubles⟩

/-- A request keeps a bridge settled if what it saves is not too deep for the reader. -/
theorem Settled.respond {directory : String} {bridge : StoredBridge} {disk : Disk}
    (settled : Settled directory bridge disk) {settingDepth tokensDepth : Nat}
    (settings : settingDepth < Json.depthLimit) (sessions : tokensDepth + 1 < Json.depthLimit)
    {request : Request} (within : request.Within settingDepth tokensDepth) :
    Settled directory (StoredBridge.respond .none request (bridge, disk)).2.1
      (StoredBridge.respond .none request (bridge, disk)).2.2 := by
  cases request with
  | sessionRecord => exact settled
  | call call =>
      cases call with
      | selectFolder => exact absurd within id
      | getSession => exact settled
      | getSetting key => exact settled
      | clearSession =>
          exact settled.persist .none Settings.sessionKey trivial trivial (by decide)
      | saveSession tokens host =>
          obtain ⟨readable, flat⟩ := within
          obtain ⟨ordered, numbers⟩ := readable_spec readable
          refine settled.persist .none Settings.sessionKey (ordered_toStored ordered host)
            ⟨trivial, numbers, trivial⟩ ?_
          rw [depth_toStored]
          omega
      | saveSetting key value =>
          obtain ⟨readable, flat⟩ := within
          obtain ⟨ordered, numbers⟩ := readable_spec readable
          simp only [StoredBridge.respond, perform]
          split
          · exact settled
          · exact settled.persist .none key ordered numbers (by omega)

theorem Settled.runTurns_eq {directory : String} {bridge : StoredBridge} {disk : Disk}
    (settled : Settled directory bridge disk) {settingDepth tokensDepth : Nat}
    (settings : settingDepth < Json.depthLimit) (sessions : tokensDepth + 1 < Json.depthLimit)
    (turns : List Turn)
    (within : ∀ request, .request request ∈ turns → request.Within settingDepth tokensDepth) :
    runTurns directory turns (bridge, disk) =
      runTurns directory (turns.filter Turn.isRequest) (bridge, disk) := by
  induction turns generalizing bridge disk with
  | nil => rfl
  | cons turn rest ih =>
      have later : ∀ request, .request request ∈ rest →
          request.Within settingDepth tokensDepth :=
        fun request member => within request (List.mem_cons_of_mem _ member)
      cases turn with
      | restart =>
          have same : (Turn.restart :: rest).filter Turn.isRequest = rest.filter Turn.isRequest := rfl
          -- Opening again gives back this very bridge and disk.
          rw [same, runTurns, settled.openIn_eq]
          exact ih settled later
      | request request =>
          have same : (Turn.request request :: rest).filter Turn.isRequest =
              .request request :: rest.filter Turn.isRequest := rfl
          rw [same, runTurns, runTurns]
          have next := settled.respond settings sessions (within request List.mem_cons_self)
          exact congrArg (Except.map _) (ih next later)

/-- An opened bridge is settled if the doubles of its document read back. -/
theorem settled_of_openIn {faults : Faults} {directory : String} {disk opened : Disk}
    {bridge : StoredBridge} (isOpen : openIn faults directory disk = (.ok bridge, opened))
    (doubles : Json.AllNumbersMembers Number.Exact bridge.store.document) :
    Settled directory bridge opened := by
  obtain ⟨opening, noPicker⟩ := openIn_eq_ok isOpen
  obtain ⟨settled, accepted⟩ := Store.settled_of_openIn opening
  obtain ⟨faithful, shallow⟩ :=
    Settings.faithful_of_accepted settled.isOpen.loaded accepted doubles
  exact ⟨settled, noPicker, faithful, shallow⟩

/-! ## Values at the reader's limit -/

def nest : Nat → Json
  | 0 => .null
  | levels + 1 => .array [nest levels]

theorem nest_spec (levels : Nat) : (nest levels).depth = levels ∧ (nest levels).Ordered ∧
    ∀ holds, (nest levels).AllNumbers holds := by
  induction levels with
  | zero => exact ⟨rfl, trivial, fun _ => trivial⟩
  | succ levels ih =>
      obtain ⟨depth, ordered, numbers⟩ := ih
      refine ⟨?_, ⟨ordered, trivial⟩, fun holds => ⟨numbers holds, trivial⟩⟩
      simp [nest, Json.depth, Json.depthItems, depth]

theorem readable_nest {levels : Nat} (shallow : levels ≤ Json.depthLimit) :
    Readable (nest levels) := by
  obtain ⟨depth, ordered, numbers⟩ := nest_spec levels
  refine ⟨⟨(nest levels).pretty, ?_⟩, numbers _⟩
  rw [Json.read?_pretty ordered (numbers _), depth, if_pos shallow]

/-- A value at the reader's limit is written, but then the file is given up for the defaults. -/
theorem Settled.persist_deep {directory : String} {bridge : StoredBridge} {disk : Disk}
    (settled : Settled directory bridge disk) (writable : Store.Writable directory disk)
    (key : String) {value : Json} (ordered : value.Ordered)
    (numbers : value.AllNumbers Number.ReadsBack) (deep : Json.depthLimit ≤ value.depth) :
    ∃ left, bridge.persist .none key value disk =
        (true, ⟨⟨bridge.store.path, Members.insert key value bridge.store.document⟩, none⟩, left) ∧
      openIn .none directory left =
        (.ok ⟨⟨bridge.store.path, Settings.defaults⟩, none⟩, left) := by
  have isOpen := settled.store.isOpen
  obtain ⟨left, written, tree, holds⟩ := persist_of_writable isOpen writable key value
  have lost : readDocument (fileText (Members.insert key value bridge.store.document)) =
      Settings.defaults := by
    rw [Settings.readDocument_fileText (settled.faithful.insert key ordered numbers), if_neg]
    intro shallow
    have member := Members.mem_of_get?_eq_some
      ((Members.get?_insert key key value bridge.store.document).trans (if_pos rfl))
    have flat := Json.depthMembers_le_iff.mp (Nat.le_refl _) (key, value) member
    exact Nat.not_lt.mpr deep (Nat.lt_of_le_of_lt flat shallow)
  refine ⟨left, ?_, ?_⟩
  · rw [written, insert, settled.picker]
  · unfold insert at holds
    rw [isOpen.path] at holds ⊢
    unfold openIn
    rw [Store.openIn_of_holds (settled.store.made left tree.grows) holds, lost]

/-- A data directory whose settings file has some content. -/
def dataDisk (content : ByteArray) : Disk :=
  ⟨[(["data", "config.json"], .file 0o600 content), (["data"], .directory 0o755)], 0o022, "/"⟩

/-- The bridge of that directory when its file holds the defaults. -/
def dataBridge : StoredBridge := ⟨⟨"/data/config.json", Settings.defaults⟩, none⟩

theorem openIn_dataDisk :
    openIn .none "/data" (dataDisk (fileText Settings.defaults)) =
      (.ok dataBridge, dataDisk (fileText Settings.defaults)) := by
  have opened : openIn .none "/data" (dataDisk (fileText Settings.defaults)) =
      (.ok ⟨⟨"/data/config.json", readDocument (fileText Settings.defaults)⟩, none⟩,
        dataDisk (fileText Settings.defaults)) := rfl
  rw [opened, Settings.readDocument_defaults]
  rfl

theorem writable_dataDisk (content : ByteArray) : Store.Writable "/data" (dataDisk content) :=
  ⟨⟨["data", "config.json.tmp"], rfl, rfl⟩, ⟨["data", "config.json"], rfl, rfl⟩⟩

theorem settled_dataBridge :
    Settled "/data" dataBridge (dataDisk (fileText Settings.defaults)) :=
  settled_of_openIn openIn_dataDisk Settings.exact_defaults

/-- Saving something too deep, restarting and asking for it again: it is gone. -/
theorem not_transparent_of_lost {settingDepth tokensDepth : Nat} (save ask : Request) (key : String)
    (value : Json) (saving : save.Within settingDepth tokensDepth)
    (asking : ask.Within settingDepth tokensDepth) (ordered : value.Ordered)
    (numbers : value.AllNumbers Number.ReadsBack) (deep : Json.depthLimit ≤ value.depth)
    (saves : ∀ state, respond .none save state =
      let (landed, after) := state.1.persist .none key value state.2
      (.answer (.ok (.written landed)), after))
    (lost : ∀ left later,
      (respond .none ask (⟨⟨"/data/config.json", Settings.defaults⟩, none⟩, left)).1 ≠
        (respond .none ask
          (⟨⟨"/data/config.json", Members.insert key value Settings.defaults⟩, none⟩, later)).1) :
    ¬ RestartTransparent settingDepth tokensDepth := by
  intro transparent
  obtain ⟨left, written, reopened⟩ :=
    settled_dataBridge.persist_deep (writable_dataDisk _) key ordered numbers deep
  have same := transparent "/data" _ _ dataBridge [.request save, .restart, .request ask]
    openIn_dataDisk Settings.exact_defaults (by
      intro request member
      simp only [List.mem_cons, Turn.request.injEq, reduceCtorEq, List.not_mem_nil, or_false,
        false_or] at member
      rcases member with rfl | rfl
      · exact saving
      · exact asking)
  have filtered : [Turn.request save, .restart, .request ask].filter Turn.isRequest =
      [.request save, .request ask] := rfl
  rw [filtered] at same
  simp only [runTurns, saves, written, reopened, Except.map, Except.ok.injEq, List.cons.injEq,
    true_and, and_true] at same
  exact lost left left same

theorem not_transparent_of_setting {settingDepth : Nat} (deep : Json.depthLimit ≤ settingDepth)
    (tokensDepth : Nat) : ¬ RestartTransparent settingDepth tokensDepth := by
  obtain ⟨depth, ordered, numbers⟩ := nest_spec Json.depthLimit
  refine not_transparent_of_lost (.call (.saveSetting "deep" (nest Json.depthLimit)))
    (.call (.getSetting "deep")) "deep" (nest Json.depthLimit)
    ⟨readable_nest (Nat.le_refl _), depth.symm ▸ deep⟩ trivial ordered (numbers _)
    (Nat.le_of_eq depth.symm) (fun _ => rfl) fun left later same => ?_
  simp only [respond, perform, Store.get?, Members.get?_insert, if_true, Response.answer.injEq,
    Except.ok.injEq, Reply.value.injEq] at same
  simp [Settings.defaults, Settings.lastDirectoryKey, Settings.sessionKey, Members.get?] at same

/-- Tokens one level below the reader's limit are lost at the next restart. -/
theorem not_transparent_of_tokens {tokensDepth : Nat} (deep : Json.depthLimit ≤ tokensDepth + 1)
    (settingDepth : Nat) : ¬ RestartTransparent settingDepth tokensDepth := by
  obtain ⟨depth, ordered, numbers⟩ := nest_spec (Json.depthLimit - 1)
  refine not_transparent_of_lost (.call (.saveSession (nest (Json.depthLimit - 1)) "host"))
    .sessionRecord Settings.sessionKey
    (SessionRecord.toStored ⟨nest (Json.depthLimit - 1), "host"⟩)
    ⟨readable_nest (Nat.sub_le _ _), ?_⟩ trivial (ordered_toStored ordered "host")
    ⟨trivial, numbers _, trivial⟩ ?_ (fun _ => rfl) fun left later same => ?_
  · rw [depth]
    exact Nat.sub_le_of_le_add deep
  · rw [depth_toStored, depth]
    decide
  · -- The defaults hold no session, the document before the restart does.
    simp only [respond, sessionRecord, Store.get?, Members.get?_insert, if_true,
      Response.record.injEq] at same
    cases same

/-- Restarts are not noticed exactly if settings stay one level below the reader's limit and tokens
two. -/
theorem restartTransparent_iff (settingDepth tokensDepth : Nat) :
    RestartTransparent settingDepth tokensDepth ↔ settingDepth ≤ 126 ∧ tokensDepth ≤ 125 := by
  constructor
  · intro transparent
    refine ⟨Nat.le_of_not_lt fun deep => ?_, Nat.le_of_not_lt fun deep => ?_⟩
    · exact not_transparent_of_setting deep tokensDepth transparent
    · exact not_transparent_of_tokens (Nat.succ_le_succ deep) settingDepth transparent
  · intro shallow directory disk opened bridge turns isOpen doubles within
    have settled := settled_of_openIn isOpen doubles
    exact settled.runTurns_eq (Nat.lt_succ_of_le shallow.1)
      (Nat.succ_lt_succ (Nat.lt_succ_of_le shallow.2)) turns within

/-- Values up to the reader's own limit are too deep. -/
theorem not_restartTransparent_depthLimit :
    ¬ RestartTransparent Json.depthLimit Json.depthLimit :=
  not_transparent_of_setting (Nat.le_refl _) Json.depthLimit

end StoredBridge

end WebviewHost.Bridge
