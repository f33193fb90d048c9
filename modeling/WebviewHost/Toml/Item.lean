/-!
# TOML items

What a TOML document is made of, and how keys are added to its tables. A table remembers how it
came into being, because that decides what may still be added to it.
-/

set_option autoImplicit false

namespace WebviewHost.Toml

/-- How a table came into being: by a header of its own, on the way to a longer header, by a dotted
key, or between braces. -/
inductive Form where
  | header
  | passed
  | dotted
  | braces
  deriving DecidableEq, Repr

/-- A value of a document. Floats and dates are only told apart from other values. `tables` are the
tables of one name with double brackets, of which there is at least one once it is complete. -/
inductive Item where
  | string (value : String)
  | integer (value : Int)
  | boolean (value : Bool)
  | float
  | date
  | array (items : List Item)
  | table (form : Form) (entries : List (String × Item))
  | tables (elements : List (List (String × Item)))
  deriving Repr

/-- The entries of a table, in the order in which they were written. -/
abbrev Entries := List (String × Item)

namespace Entries

def get? (entries : Entries) (key : String) : Option Item :=
  (entries.find? (·.1 = key)).map (·.2)

/-- Replace the item of a key, or add it at the end. -/
def put (entries : Entries) (key : String) (item : Item) : Entries :=
  if entries.any (·.1 = key) then
    entries.map fun entry => if entry.1 = key then (key, item) else entry
  else entries ++ [(key, item)]

def erase (entries : Entries) (key : String) : Entries := entries.filter (·.1 ≠ key)

/-- Change the table that a path leads to, making the tables on the way that are missing. A dotted
key does not enter a table that has its own header, no path enters a table in braces, and a path
through double-bracketed tables goes into the last of them. -/
def modifyAt (byDottedKey : Bool) (change : Form → Entries → Option Entries) :
    List String → Form → Entries → Option Entries
  | [], form, entries => change form entries
  | key :: path, _, entries =>
      match entries.get? key with
      | none =>
          let form := if byDottedKey then Form.dotted else Form.passed
          (modifyAt byDottedKey change path form []).map fun inner =>
            entries.put key (.table form inner)
      | some (.table form inner) =>
          if form = .braces || (byDottedKey && form = .header) then none
          else (modifyAt byDottedKey change path form inner).map fun inner =>
            entries.put key (.table form inner)
      | some (.tables elements) =>
          match elements.getLast? with
          | none => none
          | some last => (modifyAt byDottedKey change path .header last).map fun inner =>
              entries.put key (.tables (elements.dropLast ++ [inner]))
      | some _ => none

/-- Add a value under a dotted key. The key must be new, and a table that it extends must have been
made by dotted keys as well. -/
def insert (entries : Entries) (path : List String) (key : String) (item : Item) :
    Option Entries :=
  let add (form : Form) (entries : Entries) : Option Entries :=
    if (!path.isEmpty && form ≠ .dotted) || (entries.get? key).isSome then none
    else some (entries ++ [(key, item)])
  modifyAt true add path .header entries

end Entries

end WebviewHost.Toml
