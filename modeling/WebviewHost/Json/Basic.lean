import WebviewHost.Number.Literal

/-!
# JSON values

Values as settings and bridge calls carry them. The members of an object are kept in the order of
their keys, so equal objects are equal lists; `Json.Ordered` says so of a whole value.
-/

set_option autoImplicit false

namespace WebviewHost

inductive Json where
  | null
  | bool (value : Bool)
  | number (value : Number)
  | string (value : String)
  | array (items : List Json)
  | object (members : List (String × Json))
  deriving Repr, Inhabited

/-- The members of an object, by increasing key. -/
abbrev Members := List (String × Json)

namespace Members

def get? (members : Members) (key : String) : Option Json :=
  match members with
  | [] => none
  | (name, value) :: rest => if name = key then some value else get? rest key

/-- Whether a key is present, also with the value `null`. -/
def contains (members : Members) (key : String) : Bool := (members.get? key).isSome

def insert (key : String) (value : Json) : Members → Members
  | [] => [(key, value)]
  | (name, old) :: rest =>
      if key < name then (key, value) :: (name, old) :: rest
      else if name = key then (key, value) :: rest
      else (name, old) :: insert key value rest

def erase (key : String) (members : Members) : Members := members.filter (·.1 ≠ key)

/-- Members read in any order; of two with one key the later one counts. -/
def ofList (entries : List (String × Json)) : Members :=
  entries.foldl (fun members entry => members.insert entry.1 entry.2) []

def Ordered (members : Members) : Prop := members.Pairwise fun left right => left.1 < right.1

end Members

namespace Json

mutual

/-- How many arrays and objects are open at the deepest point of a value. -/
def depth : Json → Nat
  | .array items => depthItems items + 1
  | .object members => depthMembers members + 1
  | _ => 0

def depthItems : List Json → Nat
  | [] => 0
  | item :: rest => max item.depth (depthItems rest)

def depthMembers : List (String × Json) → Nat
  | [] => 0
  | (_, value) :: rest => max value.depth (depthMembers rest)

end

mutual

/-- Every object in a value lists its members by increasing key. -/
def Ordered : Json → Prop
  | .array items => OrderedItems items
  | .object members => Members.Ordered members ∧ OrderedMembers members
  | _ => True

def OrderedItems : List Json → Prop
  | [] => True
  | item :: rest => item.Ordered ∧ OrderedItems rest

def OrderedMembers : List (String × Json) → Prop
  | [] => True
  | (_, value) :: rest => value.Ordered ∧ OrderedMembers rest

end

def kind : Json → String
  | .null => "null"
  | .bool _ => "boolean"
  | .number _ => "number"
  | .string _ => "string"
  | .array _ => "array"
  | .object _ => "object"

/-- The member of an object with a key; nothing for other values. -/
def member? (value : Json) (key : String) : Option Json :=
  match value with
  | .object members => Members.get? members key
  | _ => none

/-- An absent value reads as `null`. -/
def ofOption : Option Json → Json
  | some value => value
  | none => .null

end Json

end WebviewHost
