import WebviewHost.Routes.Rule

/-!
# Route tables

A table is a list of rules of which no two can match the same path, so that the rule for a path
does not depend on the order of the list.
-/

set_option autoImplicit false

namespace WebviewHost.Routes

structure Table where
  rules : List Rule
  deriving DecidableEq, Repr

def developmentPrefixes : List String :=
  ["/auth", "/files", "/kitsu", "/publish", "/logs", "/system"]

/-- Where the backend listens during development. -/
def developmentOrigin : String := "http://localhost:8000"

/-- The first clashing pair, the pairs being ordered by their first and then their second member. -/
def firstClash? : List Rule → Option (Rule × Rule)
  | [] => none
  | rule :: rest =>
      match rest.find? rule.clashesWith with
      | some other => some (rule, other)
      | none => firstClash? rest

namespace Table

def ofRules (rules : List Rule) : Except RouteError Table :=
  match firstClash? rules with
  | some (first, second) => .error (.overlapping first.pathPrefix second.pathPrefix)
  | none => .ok ⟨rules⟩

/-- One rule for each prefix, all with the same origin. Every rule is made before clashes are
looked for. -/
def singleOrigin (prefixes : List String) (origin : String) : Except RouteError Table := do
  ofRules (← prefixes.mapM (Rule.make · origin))

def route? (table : Table) (path : String) : Option Rule :=
  table.rules.find? (·.matchesPath path)

def development : Table :=
  ⟨developmentPrefixes.map (⟨·, developmentOrigin⟩)⟩

theorem singleOrigin_development :
    singleOrigin developmentPrefixes developmentOrigin = .ok development := by
  rfl

end Table

end WebviewHost.Routes
