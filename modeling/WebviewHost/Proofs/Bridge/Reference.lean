import WebviewHost.Bridge.Stored

/-!
# Reference machine of a bridge

A bridge without files: settings by key, and the session in a slot of its own. What it depends on
from outside, namely which writes reach the disk and what a picker answers, is given to it with
every request.
-/

set_option autoImplicit false

namespace WebviewHost.Bridge

open WebviewHost.Settings (SessionRecord isReserved lastDirectoryKey sessionKey)

/-- What can be asked of a bridge: a call, or the whole session record. -/
inductive Request where
  | call (call : Call)
  | sessionRecord

inductive Response where
  | answer (answer : Answer)
  | record (found : Option SessionRecord)

/-- What the outside world does to one request: whether a value would reach the disk under a key,
and which folder the attached picker answers if it is told where to start. -/
structure Circumstances where
  lands : String → Json → Bool
  ask : Option (Option String → Except BridgeError (Option String))

/-- One request with its circumstances and the response. -/
structure Exchange where
  circumstances : Circumstances
  request : Request
  response : Response

/-- The state of the reference machine. -/
structure Reference where
  settings : String → Option Json
  slot : Json

namespace Reference

def ofDocument (document : Members) : Reference where
  settings key := if isReserved key then none else Members.get? document key
  slot := .ofOption (Members.get? document sessionKey)

def put (reference : Reference) (key : String) (value : Json) : Reference :=
  { reference with
    settings := fun other => if other = key then some value else reference.settings other }

/-- The state after a write, which may not have taken effect. -/
def settle (landed : Bool) (changed unchanged : Reference) : Reference :=
  if landed then changed else unchanged

/-- The session that a slot holds: none unless it is an object with tokens. -/
def readSlot : Json → Option SessionRecord
  | .object members =>
      (Members.get? members "tokens").map fun tokens =>
        match Members.get? members "host" with
        | some (.string host) => ⟨tokens, host⟩
        | _ => ⟨tokens, ""⟩
  | _ => none

def startDirectory (reference : Reference) : Option String :=
  match reference.settings lastDirectoryKey with
  | some (.string start) => if start = "" then none else some start
  | _ => none

def perform (circumstances : Circumstances) : Performer Reference
  | .selectFolder, reference =>
      match circumstances.ask with
      | none => (.ok (.folder none), reference)
      | some ask =>
          match ask reference.startDirectory with
          | .error error => (.error error, reference)
          | .ok none => (.ok (.folder none), reference)
          | .ok (some folder) =>
              let landed := circumstances.lands lastDirectoryKey (.string folder)
              (.ok (.folder (some folder)),
                settle landed (reference.put lastDirectoryKey (.string folder)) reference)
  | .saveSession tokens host, reference =>
      let stored := SessionRecord.toStored ⟨tokens, host⟩
      let landed := circumstances.lands sessionKey stored
      (.ok (.written landed), settle landed { reference with slot := stored } reference)
  | .getSession, reference =>
      (.ok (.value ((readSlot reference.slot).map (·.tokens))), reference)
  | .clearSession, reference =>
      let landed := circumstances.lands sessionKey .null
      (.ok (.written landed), settle landed { reference with slot := .null } reference)
  | .saveSetting key value, reference =>
      if isReserved key then (.ok (.written false), reference)
      else
        let landed := circumstances.lands key value
        (.ok (.written landed), settle landed (reference.put key value) reference)
  | .getSetting key, reference =>
      (.ok (.value (if isReserved key then some reference.slot else reference.settings key)),
        reference)

def respond (circumstances : Circumstances) (request : Request) (reference : Reference) :
    Response × Reference :=
  match request with
  | .call call =>
      let (answer, reference) := perform circumstances call reference
      (.answer answer, reference)
  | .sessionRecord => (.record (readSlot reference.slot), reference)

def responses (reference : Reference) : List Exchange → List Response
  | [] => []
  | exchange :: rest =>
      let (response, reference) := reference.respond exchange.circumstances exchange.request
      response :: reference.responses rest

def after (reference : Reference) (exchanges : List Exchange) : Reference :=
  exchanges.foldl (fun reference exchange =>
    (reference.respond exchange.circumstances exchange.request).2) reference

end Reference

/-! ## The last writes -/

namespace Exchange

/-- The value that an exchange gave a setting, if it did. Choosing a folder gives one to the setting
that remembers it. -/
def saved? (key : String) (exchange : Exchange) : Option Json :=
  match exchange.request, exchange.response with
  | .call (.saveSetting name value), .answer (.ok (.written true)) =>
      if key = name then some value else none
  | .call .selectFolder, .answer (.ok (.folder (some folder))) =>
      if key = lastDirectoryKey ∧ exchange.circumstances.lands lastDirectoryKey (.string folder)
      then some (.string folder) else none
  | _, _ => none

/-- The session after an exchange that saved or cleared it. -/
def session? (exchange : Exchange) : Option (Option SessionRecord) :=
  match exchange.request, exchange.response with
  | .call (.saveSession tokens host), .answer (.ok (.written true)) => some (some ⟨tokens, host⟩)
  | .call .clearSession, .answer (.ok (.written true)) => some none
  | _, _ => none

end Exchange

/-- The value that a setting was given last. -/
def lastSaved? (key : String) (exchanges : List Exchange) : Option Json :=
  exchanges.reverse.findSome? (·.saved? key)

/-- The session after the last exchange that saved or cleared it. -/
def lastSession? (exchanges : List Exchange) : Option (Option SessionRecord) :=
  exchanges.reverse.findSome? (·.session?)

theorem lastSaved?_append (key : String) (exchanges : List Exchange) (exchange : Exchange) :
    lastSaved? key (exchanges ++ [exchange]) =
      (exchange.saved? key).or (lastSaved? key exchanges) := by
  unfold lastSaved?
  rw [List.reverse_append, List.reverse_singleton, List.singleton_append, List.findSome?_cons]
  cases exchange.saved? key <;> rfl

theorem lastSession?_append (exchanges : List Exchange) (exchange : Exchange) :
    lastSession? (exchanges ++ [exchange]) =
      exchange.session?.or (lastSession? exchanges) := by
  unfold lastSession?
  rw [List.reverse_append, List.reverse_singleton, List.singleton_append, List.findSome?_cons]
  cases exchange.session? <;> rfl

/-- What the slot holds for a session. -/
def slotOf : Option SessionRecord → Json
  | some record => record.toStored
  | none => .null

namespace Reference

/-- A saved session is read back as it is, whatever its tokens are. -/
theorem readSlot_slotOf (session : Option SessionRecord) : readSlot (slotOf session) = session := by
  cases session <;> rfl

variable (circumstances : Circumstances) (request : Request) (reference : Reference)

theorem settings_respond (key : String) :
    (reference.respond circumstances request).2.settings key =
      (Exchange.saved? key ⟨circumstances, request,
        (reference.respond circumstances request).1⟩).or (reference.settings key) := by
  cases request with
  | sessionRecord => rfl
  | call call =>
      cases call with
      | getSession => rfl
      | getSetting name => rfl
      | saveSession tokens host =>
          simp only [respond, perform]
          cases circumstances.lands sessionKey (SessionRecord.toStored ⟨tokens, host⟩) <;> rfl
      | clearSession =>
          simp only [respond, perform]
          cases circumstances.lands sessionKey .null <;> rfl
      | saveSetting name value =>
          simp only [respond, perform]
          cases isReserved name with
          | true => rfl
          | false =>
              cases circumstances.lands name value with
              | false => rfl
              | true => by_cases same : key = name <;> simp [settle, put, Exchange.saved?, same]
      | selectFolder =>
          simp only [respond, perform]
          cases circumstances.ask with
          | none => rfl
          | some ask =>
              rcases asked : ask reference.startDirectory with error | _ | folder
              · simp [asked, Exchange.saved?]
              · simp [asked, Exchange.saved?]
              · cases landed : circumstances.lands lastDirectoryKey (.string folder) <;>
                  by_cases same : key = lastDirectoryKey <;>
                  simp [asked, settle, put, Exchange.saved?, same, landed]

theorem slot_respond :
    (reference.respond circumstances request).2.slot =
      ((Exchange.session? ⟨circumstances, request,
        (reference.respond circumstances request).1⟩).map slotOf).getD reference.slot := by
  cases request with
  | sessionRecord => rfl
  | call call =>
      cases call with
      | getSession => rfl
      | getSetting name => rfl
      | saveSession tokens host =>
          simp only [respond, perform]
          cases circumstances.lands sessionKey (SessionRecord.toStored ⟨tokens, host⟩) <;> rfl
      | clearSession =>
          simp only [respond, perform]
          cases circumstances.lands sessionKey .null <;> rfl
      | saveSetting name value =>
          simp only [respond, perform]
          cases isReserved name with
          | true => rfl
          | false => cases circumstances.lands name value <;> rfl
      | selectFolder =>
          simp only [respond, perform]
          cases circumstances.ask with
          | none => rfl
          | some ask =>
              rcases asked : ask reference.startDirectory with error | _ | folder
              · simp [asked, Exchange.session?]
              · simp [asked, Exchange.session?]
              · cases landed : circumstances.lands lastDirectoryKey (.string folder) <;>
                  simp [asked, settle, put, Exchange.session?, landed]

theorem responses_append (exchanges : List Exchange) (exchange : Exchange) :
    reference.responses (exchanges ++ [exchange]) =
      reference.responses exchanges ++
        [((reference.after exchanges).respond exchange.circumstances exchange.request).1] := by
  induction exchanges generalizing reference with
  | nil => rfl
  | cons first rest ih =>
      simp only [List.cons_append, responses, ih]
      rfl

theorem after_append (exchanges : List Exchange) (exchange : Exchange) :
    reference.after (exchanges ++ [exchange]) =
      ((reference.after exchanges).respond exchange.circumstances exchange.request).2 := by
  simp [after]

end Reference

end WebviewHost.Bridge
