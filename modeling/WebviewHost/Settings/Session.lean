import WebviewHost.Json.Basic

/-!
# Session records

What a session is and how the settings document stores it.
-/

set_option autoImplicit false

namespace WebviewHost.Settings

/-- A session: tokens, which are any value, and the host they are for. -/
structure SessionRecord where
  tokens : Json
  host : String
  deriving Repr

namespace SessionRecord

def toStored (record : SessionRecord) : Json :=
  .object [("host", .string record.host), ("tokens", record.tokens)]

/-- Read a stored form. It is an object with tokens; a host that is missing or no string reads as
the empty one. -/
def ofStored? (stored : Json) : Option SessionRecord :=
  match stored.member? "tokens" with
  | none => none
  | some tokens =>
      let host :=
        match stored.member? "host" with
        | some (.string host) => host
        | _ => ""
      some ⟨tokens, host⟩

/-- Reading a stored form gives back the record, whatever its tokens are. -/
theorem ofStored?_toStored (record : SessionRecord) :
    ofStored? record.toStored = some record := rfl

end SessionRecord

end WebviewHost.Settings
