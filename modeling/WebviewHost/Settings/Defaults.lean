import WebviewHost.Json.Basic

/-!
# Default settings

The settings document is one object. It starts with these members; the session has a member of its
own, which is not a setting to be written by name.
-/

set_option autoImplicit false

namespace WebviewHost.Settings

def sessionKey : String := "session"

def lastDirectoryKey : String := "last_directory"

def isReserved (key : String) : Bool := key = sessionKey

def defaults : Members := [
  ("default_task_name", .string "Compositing"),
  ("filename_pattern",
    .string "[\x7bepisode\x7d_]\x7bsequence\x7d_\x7bshot\x7d_\x7btask\x7d_v\x7bversion\x7d*"),
  (lastDirectoryKey, .string ""),
  ("sequence_name_template", .string "\x7bepisode\x7d_\x7bsequence\x7d"),
  (sessionKey, .null),
  ("shot_name_template", .string "\x7bepisode\x7d_\x7bsequence\x7d_\x7bshot\x7d")]

theorem defaults_ordered : defaults.Ordered := by
  unfold Members.Ordered defaults lastDirectoryKey sessionKey
  decide

/-- A document with every default member it lacks; those it has stay, also `null` ones. -/
def withDefaults (document : Members) : Members :=
  defaults.foldl (fun document entry =>
    if Members.contains document entry.1 then document
    else Members.insert entry.1 entry.2 document) document

end WebviewHost.Settings
